import SoundDevices.Json.Value
import SoundDevices.Snapshot

set_option autoImplicit false

namespace SoundDevices.Report

/-- What is known of the rates: the range and the chosen rate of a probed device, or why it could
not be probed; nothing of a device that was never opened. -/
def rates (device : Device) : String :=
  if device.isProbed then
    ", " ++ toString device.rateMin.toNat ++ "-" ++ toString device.rateMax.toNat ++
      " Hz, default " ++ toString device.rateDefault.toNat ++ " Hz"
  else match device.probeError with
    | some failure => ", not probed: " ++ failure.message
    | none => ""

/-- A device in two lines, without the last line end. -/
def device (device : Device) (isDefault : Bool) : String :=
  (if isDefault then "*" else " ") ++ " " ++ device.name ++ " (" ++ device.description ++
    ")\n      " ++ toString device.layout.count ++ " ch " ++ device.layout.name.getD "custom" ++
    rates device ++ (if device.isRaw then ", raw" else "")

/-- The devices of one purpose under a head line that counts them. -/
def list (purpose : Purpose) (list : DeviceList) : String :=
  purpose.label ++ "s (" ++ toString list.count ++ "):\n" ++
    String.join (list.devices.zipIdx.map fun entry =>
      "  " ++ device entry.1 (list.defaultIndex == some entry.2) ++ "\n")

def snapshot (snapshot : Snapshot) : String :=
  String.join (Purpose.all.map fun purpose => list purpose (snapshot.list purpose))

def layoutJson (layout : ChannelLayout) : Json :=
  .ofMembers
    [("name", .ofOption .ofString layout.name),
     ("channels", .array (layout.channels.map fun role => .ofString role.name))]

/-- A device as data. Why it could not be probed is left out. -/
def deviceJson (device : Device) : Json :=
  .ofMembers
    [("name", .ofString device.name),
     ("description", .ofString device.description),
     ("purpose", .ofString device.purpose.name),
     ("is_raw", .boolean device.isRaw),
     ("layout", layoutJson device.layout),
     ("sample_rate_min", .ofNat device.rateMin.toNat),
     ("sample_rate_max", .ofNat device.rateMax.toNat),
     ("sample_rate_default", .ofNat device.rateDefault.toNat)]

def snapshotJson (snapshot : Snapshot) : Json :=
  .ofMembers
    [("outputs", .array (snapshot.outputs.devices.map deviceJson)),
     ("inputs", .array (snapshot.inputs.devices.map deviceJson)),
     ("default_output", .ofOption .ofNat snapshot.outputs.defaultIndex),
     ("default_input", .ofOption .ofNat snapshot.inputs.defaultIndex)]

end SoundDevices.Report
