import SoundDevices.Probe
import SoundDevices.Snapshot

set_option autoImplicit false

namespace SoundDevices

namespace Sweep

abbrev Entry := Device × Bool

/-- The device of one name offered for one purpose. -/
def hintEntry (system : SoundSystem) (preferred : UInt32) (name description : String)
    (purpose : Purpose) : Traced (List Entry) := do
  let device : Device := ⟨name, description, purpose, false, .empty, 0, 0, 0, none⟩
  let outcome ← probe system device none preferred
  return [(Device.settled outcome, Hint.isDefaultName name)]

/-- The devices of one hint: none if it has no name, or one that is left out. -/
def hintEntries (system : SoundSystem) (preferred : UInt32) (hint : Hint) :
    Traced (List Entry) :=
  match hint.name with
  | none => pure []
  | some name =>
    if Hint.isExcludedName name then pure []
    else
      Traced.collect (hintEntry system preferred name hint.shownDescription) hint.devicePurposes

def hintPass (system : SoundSystem) (preferred : UInt32) : Traced (List Entry) := do
  let hints ← Traced.ask .pcmHints system.pcmHints
  Traced.collect (hintEntries system preferred) hints

def rawName (card device : UInt32) : String :=
  "hw:" ++ toString card.toNat ++ "," ++ toString device.toNat

def rawEntry (system : SoundSystem) (preferred card : UInt32) (control : CardControl)
    (cardName : String) (device : UInt32) (purpose : Purpose) : Traced (List Entry) := do
  match ← Traced.ask (.pcmName card device purpose) (control.pcmName device purpose) with
  | none => return []
  | some streamName =>
    let found : Device :=
      ⟨rawName card device, cardName ++ " " ++ streamName, purpose, true, .empty, 0, 0, 0, none⟩
    let known ← Traced.note (.hwChannelMaps card device purpose)
      (system.hwChannelMaps card device purpose)
    let outcome ← probe system found known preferred
    return [(Device.settled outcome, false)]

def cardEntries (system : SoundSystem) (preferred card : UInt32) (control : CardControl) :
    Traced (List Entry) := do
  let cardName ← Traced.ask (.cardName card) control.cardName
  let devices ← Traced.ask (.pcmDevices card) control.pcmDevices
  Traced.collect
    (fun device =>
      Traced.collect (rawEntry system preferred card control cardName device) Purpose.all)
    devices

/-- The devices of the cards in a list, up to the first card that is gone: those after it may have
moved. -/
def cardsEntries (system : SoundSystem) (preferred : UInt32) : List UInt32 → Traced (List Entry)
  | [] => pure []
  | card :: cards => do
    match ← Traced.ask (.openControl card) (system.openControl card) with
    | none => return []
    | some control =>
      let head ← cardEntries system preferred card control
      let tail ← cardsEntries system preferred cards
      return head ++ tail

/-- The raw devices of the machine. -/
def hardwarePass (system : SoundSystem) (preferred : UInt32) : Traced (List Entry) := do
  let cards ← Traced.ask .cards system.cards
  cardsEntries system preferred cards

/-- Asks for all devices, names on offer before hardware. A question about the machine that fails
ends the sweep without a snapshot; a device that does not open is only marked. -/
def run (system : SoundSystem) (preferred : UInt32) : Traced Snapshot := do
  let named ← hintPass system preferred
  let raw ← hardwarePass system preferred
  return Snapshot.ofEntries (named ++ raw)

end Sweep

/-- All devices of a sound system, or why they could not be found. -/
def enumerate (system : SoundSystem) (preferred : UInt32) : Except Error Snapshot :=
  (Sweep.run system preferred).result

end SoundDevices
