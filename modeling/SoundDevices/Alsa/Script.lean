import SoundDevices.Alsa.Library

set_option autoImplicit false

namespace SoundDevices.Alsa

namespace Script

structure RawHint where
  name : Option Bytes := none
  description : Option Bytes := none
  direction : Option Bytes := none
  deriving DecidableEq, Repr, Inhabited

/-- A stored text, if there is one and it is UTF-8. -/
def storedText? (stored : Option Bytes) : Option String :=
  stored.bind fun bytes => Text.decode? (storedBytes bytes)

/-- A name on offer. Its direction is one of two words, or it serves both purposes. -/
def RawHint.offer (raw : RawHint) : Offer where
  name := storedText? raw.name
  description := storedText? raw.description
  direction :=
    match storedText? raw.direction with
    | some "Output" => some .playback
    | some "Input" => some .capture
    | _ => none

def describe (errno : Int32) : String :=
  match errno.toInt with
  | 1 => "Operation not permitted"
  | 2 => "No such file or directory"
  | 5 => "I/O error"
  | 6 => "No such device or address"
  | 11 => "Try again"
  | 13 => "Permission denied"
  | 16 => "Device or resource busy"
  | 19 => "No such device"
  | 22 => "Invalid argument"
  | 24 => "Too many open files"
  | 25 => "Not a typewriter"
  | 28 => "No space left on device"
  | 32 => "Broken pipe"
  | 38 => "Function not implemented"
  | _ => "Unknown errno"

/-- A failure as a script shows it. -/
def shown (failure : Failure) : String :=
  "ALSA function '" ++ failure.function.name ++ "' failed with error '" ++
    describe failure.errno ++ " (" ++ toString failure.errno ++ ")'"

structure Stream where
  name : Option Bytes := none
  infoCode : Int32 := 0
  deriving DecidableEq, Repr, Inhabited

/-- One device of a card, and the code of the step onto it. -/
structure Pcm where
  device : Int32
  nextCode : Int32 := 0
  output : Option Stream := none
  input : Option Stream := none
  deriving DecidableEq, Repr, Inhabited

def Pcm.stream (pcm : Pcm) : Purpose → Option Stream
  | .output => pcm.output
  | .input => pcm.input

structure Card where
  index : Int32
  nextCode : Int32 := 0
  openCode : Int32 := 0
  infoCode : Int32 := 0
  name : Option Bytes := none
  pcms : List Pcm := []
  pcmsEndCode : Int32 := 0
  deriving DecidableEq, Repr, Inhabited

end Script

/-- The answers of the library for one machine. Devices stand under their purpose and name, or under
their name alone; the maps of the hardware under card, device and direction. What is not named does
not exist, and a function without a code succeeds. -/
structure Script where
  hintCode : Int32 := 0
  hints : List Script.RawHint := []
  cards : List Script.Card := []
  cardsEndCode : Int32 := 0
  allocationCodes : List (String × Int32) := []
  pcms : List (String × PcmAnswers) := []
  hwMaps : List (String × List (List UInt32)) := []

namespace Script

/-- What a device answers of which the script says nothing: it opens, in stereo. -/
def usualPcm : PcmAnswers := { currentMap := some [3, 4] }

def card? (script : Script) (card : UInt32) : Option Card :=
  script.cards.find? (·.index.toInt == (card.toNat : Int))

def stream? (script : Script) (card device : UInt32) (purpose : Purpose) : Option Stream := do
  let card ← script.card? card
  let pcm ← card.pcms.find? (·.device.toInt == (device.toNat : Int))
  pcm.stream purpose

def pcmAnswers (script : Script) (name : String) (purpose : Purpose) : PcmAnswers :=
  match script.pcms.lookup (purpose.label ++ " " ++ name) with
  | some answers => answers
  | none => (script.pcms.lookup name).getD usualPcm

def hwKey (card device : UInt32) (purpose : Purpose) : String :=
  toString card.toNat ++ "," ++ toString device.toNat ++ "," ++ purpose.label

/-- The code of setting memory aside, which is the same each time. -/
def allocationCode (script : Script) (function : Function) : Int32 :=
  (script.allocationCodes.lookup function.name).getD 0

def library (script : Script) : Library where
  shown := shown
  hintCode := script.hintCode
  hints := script.hints.map RawHint.offer
  cards := ⟨script.cards.map fun card => (card.nextCode, card.index), script.cardsEndCode⟩
  controlCode := fun card =>
    match script.card? card with
    | none => notFoundCode
    | some card => card.openCode
  cardInfoAllocation := fun _ => script.allocationCode .allocateCardInfo
  cardInfo := fun card =>
    match script.card? card with
    | none => (notFoundCode, none)
    | some card => (card.infoCode, card.name)
  devices := fun card =>
    match script.card? card with
    | none => {}
    | some card => ⟨card.pcms.map fun pcm => (pcm.nextCode, pcm.device), card.pcmsEndCode⟩
  pcmInfoAllocation := fun _ _ _ => script.allocationCode .allocatePcmInfo
  pcmInfo := fun card device purpose =>
    match script.stream? card device purpose with
    | none => (notFoundCode, none)
    | some stream => (stream.infoCode, stream.name)
  paramsAllocation := fun _ _ => script.allocationCode .allocateParams
  pcm := script.pcmAnswers
  hwMaps := fun card device purpose => script.hwMaps.lookup (hwKey card device purpose)

end Script

end SoundDevices.Alsa
