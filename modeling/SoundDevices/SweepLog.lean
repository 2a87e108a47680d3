import SoundDevices.Log
import SoundDevices.Sweep

set_option autoImplicit false

namespace SoundDevices.Sweep

def probeMessage (outcome : Device × Option Error) : LogMessage :=
  let device := outcome.1
  match outcome.2 with
  | some failure =>
    ⟨.warn, "probing " ++ device.purpose.label ++ " " ++ device.name ++ " failed: " ++
      failure.message⟩
  | none =>
    ⟨.debug, "probed " ++ device.purpose.label ++ " " ++ device.name ++ ": " ++
      toString device.layout.count ++ " channels (" ++ device.layout.name.getD "custom" ++ ") " ++
      toString device.rateMin.toNat ++ ".." ++ toString device.rateMax.toNat ++ " Hz"⟩

def cardMessages (system : SoundSystem) (card : UInt32) : List LogMessage :=
  match system.openControl card with
  | .ok none => [⟨.debug, "card " ++ toString card.toNat ++ " disappeared during the sweep"⟩]
  | _ => []

/-- What is logged on the way, by the questions. The maps `known` are those that the question
before asked for. -/
def messages (system : SoundSystem) (preferred : UInt32) :
    Option (List ChannelMap) → List Call → List LogMessage
  | _, [] => []
  | _, .hwChannelMaps card device purpose :: calls =>
    messages system preferred (system.hwChannelMaps card device purpose) calls
  | known, .openPcm purpose name :: calls =>
    let device : Device := { name, description := "", purpose, isRaw := false }
    probeMessage (device.probed (system.openPcm name purpose) known preferred) ::
      messages system preferred none calls
  | _, .openControl card :: calls =>
    cardMessages system card ++ messages system preferred none calls
  | _, _ :: calls => messages system preferred none calls

def countText (snapshot : Snapshot) : String :=
  toString (snapshot.count .output) ++ " outputs, " ++ toString (snapshot.count .input) ++ " inputs"

def failureText (failure : Error) : String := "error refreshing devices: " ++ failure.message

def endMessages : Except Error Snapshot → List LogMessage
  | .ok snapshot =>
    [⟨.debug, "sweep found " ++ countText snapshot⟩, ⟨.info, "publishing " ++ countText snapshot⟩]
  | .error failure => [⟨.error, failureText failure⟩]

/-- All that a sweep logs, also one that fails in the end. -/
def log (system : SoundSystem) (preferred : UInt32) : List LogMessage :=
  let swept := run system preferred
  messages system preferred none swept.calls ++ endMessages swept.result

end SoundDevices.Sweep
