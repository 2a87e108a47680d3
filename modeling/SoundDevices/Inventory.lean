import SoundDevices.SoundSystem

set_option autoImplicit false

namespace SoundDevices

namespace Inventory

/-- One stream of a device: its name, why the name cannot be told, and the maps of its hardware. -/
structure Stream where
  name : Option String := none
  nameError : Option Error := none
  maps : Option (List ChannelMap) := none
  deriving DecidableEq, Repr, Inhabited

structure Pcm where
  device : UInt32
  output : Stream := {}
  input : Stream := {}
  deriving DecidableEq, Repr, Inhabited

def Pcm.stream (pcm : Pcm) : Purpose → Stream
  | .output => pcm.output
  | .input => pcm.input

/-- One card. A card that is `gone` still stands in the list of cards. -/
structure Card where
  index : UInt32
  name : String := ""
  gone : Bool := false
  openError : Option Error := none
  infoError : Option Error := none
  devicesError : Option Error := none
  pcms : List Pcm := []
  deriving DecidableEq, Repr, Inhabited

def orFailure {α : Type} (failure : Option Error) (value : α) : Except Error α :=
  match failure with
  | none => .ok value
  | some failure => .error failure

@[simp] theorem orFailure_none {α : Type} (value : α) : orFailure none value = .ok value := rfl

@[simp] theorem orFailure_some {α : Type} (failure : Error) (value : α) :
    orFailure (some failure) value = .error failure := rfl

namespace Card

def pcm? (card : Card) (device : UInt32) : Option Pcm :=
  card.pcms.find? (·.device == device)

def control (card : Card) : CardControl where
  cardName := orFailure card.infoError card.name
  pcmDevices := orFailure card.devicesError (card.pcms.map (·.device))
  pcmName := fun device purpose =>
    match card.pcm? device with
    | none => .ok none
    | some pcm => orFailure (pcm.stream purpose).nameError (pcm.stream purpose).name

end Card

end Inventory

/-- A machine as data. What a device can do is found under its purpose and name, else under its
name alone. -/
structure Inventory where
  hintsError : Option Error := none
  hints : List Hint := []
  cardsError : Option Error := none
  cards : List Inventory.Card := []
  caps : List (String × Except Error PcmCaps) := []

namespace Inventory

/-- What a device can do of which nothing else is known: stereo, at all usual rates. -/
def usualCaps : PcmCaps where
  currentMap := some [.frontLeft, .frontRight]
  offeredMaps := []
  rateMin := .exact 8000
  rateMax := .exact 192000

def card? (inventory : Inventory) (index : UInt32) : Option Card :=
  inventory.cards.find? (·.index == index)

def opened (inventory : Inventory) (name : String) (purpose : Purpose) : Except Error PcmCaps :=
  match inventory.caps.lookup (purpose.label ++ " " ++ name) with
  | some answer => answer
  | none => (inventory.caps.lookup name).getD (.ok usualCaps)

def system (inventory : Inventory) : SoundSystem where
  pcmHints := orFailure inventory.hintsError inventory.hints
  cards := orFailure inventory.cardsError (inventory.cards.map (·.index))
  openControl := fun index =>
    match inventory.card? index with
    | none => .ok none
    | some card => orFailure card.openError (if card.gone then none else some card.control)
  openPcm := inventory.opened
  hwChannelMaps := fun index device purpose => do
    let card ← inventory.card? index
    let pcm ← card.pcm? device
    (pcm.stream purpose).maps

end Inventory

end SoundDevices
