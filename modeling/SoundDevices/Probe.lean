import SoundDevices.SoundSystem

set_option autoImplicit false

namespace SoundDevices

/-- The wider of two maps, the earlier one if they are equally wide. -/
def widerMap (best : Option ChannelMap) (map : ChannelMap) : Option ChannelMap :=
  match best with
  | none => some map
  | some held => if map.length ≤ held.length then some held else some map

def bestMap (maps : List ChannelMap) : Option ChannelMap :=
  maps.foldl widerMap none

@[simp] theorem bestMap_nil : bestMap [] = none := rfl

theorem bestMap_concat (maps : List ChannelMap) (map : ChannelMap) :
    bestMap (maps ++ [map]) = widerMap (bestMap maps) map := by
  simp [bestMap]

namespace Device

def withBestMap (device : Device) (maps : List ChannelMap) : Device :=
  match bestMap maps with
  | none => device
  | some map => { device with layout := .ofRoles map }

@[simp] theorem withBestMap_nil (device : Device) : device.withBestMap [] = device := rfl

/-- The device laid out by the maps that are known, if any are. -/
def withKnownMaps (device : Device) (known : Option (List ChannelMap)) : Device :=
  match known with
  | none => device
  | some maps => device.withBestMap maps

/-- The device laid out by what it told and by the maps that are known of its hardware. The maps
on offer count only where neither a map in use nor a list of known maps is there. -/
def withMaps (device : Device) (caps : PcmCaps) (known : Option (List ChannelMap)) : Device :=
  match caps.currentMap with
  | some map => { device with layout := .ofRoles map }.withKnownMaps known
  | none => device.withBestMap (known.getD caps.offeredMaps)

/-- The device with a range of rates, and the rate to choose from it. -/
def withRates (device : Device) (range : RateRange) (preferred : UInt32) : Device :=
  { device with
    rateMin := range.min
    rateMax := range.max
    rateDefault := range.choose preferred }

/-- The device after its opening was answered, and the failure if it was one. A device that does
not open keeps its rates, and is laid out by the maps known of its hardware alone. -/
def probed (device : Device) (answer : Except Error PcmCaps) (known : Option (List ChannelMap))
    (preferred : UInt32) : Device × Option Error :=
  match answer with
  | .error failure => (device.withKnownMaps known, some failure)
  | .ok caps =>
    ((device.withMaps caps known).withRates (.ofBounds caps.rateMin caps.rateMax) preferred, none)

/-- The device with the outcome of a probe written into it. -/
def settled (outcome : Device × Option Error) : Device :=
  match outcome.2 with
  | none => outcome.1
  | some failure => { outcome.1 with probeError := some failure }

end Device

def probe (system : SoundSystem) (device : Device) (known : Option (List ChannelMap))
    (preferred : UInt32) : Traced (Device × Option Error) := do
  let answer ← Traced.note (.openPcm device.purpose device.name)
    (system.openPcm device.name device.purpose)
  return device.probed answer known preferred

theorem probe_eq (system : SoundSystem) (device : Device) (known : Option (List ChannelMap))
    (preferred : UInt32) :
    probe system device known preferred =
      ⟨[.openPcm device.purpose device.name],
        .ok (device.probed (system.openPcm device.name device.purpose) known preferred)⟩ := rfl

end SoundDevices
