import SoundDevices.SoundSystem
import SoundDevices.Text.Utf8
import SoundDevices.Text.Quoted

set_option autoImplicit false

namespace SoundDevices.Alsa

/-- The functions whose return codes count. -/
inductive Function where
  | cardNext
  | controlOpen
  | cardInfo
  | nextDevice
  | pcmInfo
  | pcmOpen
  | paramsAny
  | setRateResample
  | setAccess
  | setChannelsLast
  | getRateMax
  | getRateMin
  | allocateCardInfo
  | allocatePcmInfo
  | allocateParams
  deriving DecidableEq, Repr

def Function.name : Function → String
  | cardNext => "snd_card_next"
  | controlOpen => "snd_ctl_open"
  | cardInfo => "snd_ctl_card_info"
  | nextDevice => "snd_ctl_pcm_next_device"
  | pcmInfo => "snd_ctl_pcm_info"
  | pcmOpen => "snd_pcm_open"
  | paramsAny => "snd_pcm_hw_params_any"
  | setRateResample => "snd_pcm_hw_params_set_rate_resample"
  | setAccess => "snd_pcm_hw_params_set_access"
  | setChannelsLast => "snd_pcm_hw_params_set_channels_last"
  | getRateMax => "snd_pcm_hw_params_get_rate_max"
  | getRateMin => "snd_pcm_hw_params_get_rate_min"
  | allocateCardInfo => "snd_ctl_card_info_malloc"
  | allocatePcmInfo => "snd_pcm_info_malloc"
  | allocateParams => "snd_pcm_hw_params_malloc"

/-- The functions that only set memory aside. -/
def Function.isAllocation : Function → Bool
  | allocateCardInfo | allocatePcmInfo | allocateParams => true
  | _ => false

/-- Where the streams of a name on offer lead, if they all lead one way. -/
inductive Direction where
  | playback
  | capture
  deriving DecidableEq, Repr

def Direction.purpose : Direction → Purpose
  | playback => .output
  | capture => .input

/-- A name on offer, as the binding to the library hands it on. -/
structure Offer where
  name : Option String := none
  description : Option String := none
  direction : Option Direction := none
  deriving DecidableEq, Repr, Inhabited

def Offer.hint (offer : Offer) : Hint where
  name := offer.name
  description := offer.description
  direction := offer.direction.map Direction.purpose

/-- A walk over numbers: each with the code of the step onto it, and the code of the last step. -/
structure Walk where
  steps : List (Int32 × Int32) := []
  endCode : Int32 := 0
  deriving DecidableEq, Repr, Inhabited

/-- What a device answers: the return code of each function, the ends of its rates, the positions
of the map in use and of the maps on offer. -/
structure PcmAnswers where
  code : Function → Int32 := fun _ => 0
  rateMin : RateBound := .exact 8000
  rateMax : RateBound := .exact 192000
  currentMap : Option (List UInt32) := none
  offeredMaps : Option (List (List UInt32)) := none

structure Failure where
  function : Function
  errno : Int32
  deriving DecidableEq, Repr

/-- The answers of the library. Memory is set aside anew for each question about a card, for each
about a device of a card, and for each device that is opened. How a failure is shown is up to the
binding to the library. -/
structure Library where
  shown : Failure → String
  hintCode : Int32
  hints : List Offer
  cards : Walk
  controlCode : UInt32 → Int32
  cardInfoAllocation : UInt32 → Int32
  cardInfo : UInt32 → Int32 × Option Bytes
  devices : UInt32 → Walk
  pcmInfoAllocation : UInt32 → UInt32 → Purpose → Int32
  pcmInfo : UInt32 → UInt32 → Purpose → Int32 × Option Bytes
  paramsAllocation : String → Purpose → Int32
  pcm : String → Purpose → PcmAnswers
  hwMaps : UInt32 → UInt32 → Purpose → Option (List (List UInt32))

namespace Library

/-- The error that a failure is: an allocation fails for want of memory whatever its number, and
so does any function with the number 12; all else is the given kind of error, about `what`. -/
def errorOf (library : Library) (kind : String → Error) (what : String) (failure : Failure) :
    Error :=
  if failure.function.isAllocation || failure.errno == 12 then .noMemory
  else kind (what ++ ": " ++ library.shown failure)

theorem errorOf_of_isAllocation (library : Library) (kind : String → Error) (what : String)
    {failure : Failure} (allocates : failure.function.isAllocation = true) :
    library.errorOf kind what failure = .noMemory := by
  simp [errorOf, allocates]

end Library

def notFoundCode : Int32 := -2

/-- A negative return code says that a function failed, with the number of the failure after the
sign. -/
def check (function : Function) (code : Int32) : Except Failure Unit :=
  if code < 0 then .error ⟨function, -code⟩ else .ok ()

/-- The least code is a failure too. It has no opposite, and is its own number. -/
theorem check_minValue (function : Function) :
    check function Int32.minValue = .error ⟨function, Int32.minValue⟩ := rfl

/-- The first of some return codes, in order, that tells of a failure. -/
def firstFailure : List (Function × Int32) → Option Failure
  | [] => none
  | (function, code) :: rest => if code < 0 then some ⟨function, -code⟩ else firstFailure rest

@[simp] theorem firstFailure_nil : firstFailure [] = none := rfl

theorem firstFailure_cons (function : Function) (code : Int32) (rest : List (Function × Int32)) :
    firstFailure ((function, code) :: rest) =
      if code < 0 then some ⟨function, -code⟩ else firstFailure rest := rfl

/-- The numbers of a walk. The walk ends at its last step or at a negative number. -/
def walkNumbers (function : Function) (endCode : Int32) :
    List (Int32 × Int32) → Except Failure (List UInt32)
  | [] => if endCode < 0 then .error ⟨function, -endCode⟩ else .ok []
  | (code, number) :: rest =>
    if code < 0 then .error ⟨function, -code⟩
    else if number < 0 then .ok []
    else (walkNumbers function endCode rest).map (number.toUInt32 :: ·)

def Walk.numbers (walk : Walk) (function : Function) : Except Failure (List UInt32) :=
  walkNumbers function walk.endCode walk.steps

def storedBytes (stored : Bytes) : Bytes := stored.takeWhile (· != 0)

/-- A stored text; none reads as empty, and U+FFFD stands for what is not UTF-8. -/
def storedText (stored : Option Bytes) : String :=
  match stored with
  | none => ""
  | some bytes => Text.decodeLossy (storedBytes bytes)

def rolesOf (positions : List UInt32) : ChannelMap := positions.map ChannelRole.ofPosition

/-- The maps of a list; an empty list counts as none. -/
def mapsOf (maps : Option (List (List UInt32))) : Option (List ChannelMap) :=
  match maps with
  | none | some [] => none
  | some maps => some (maps.map rolesOf)

/-- What a device tells once it is open. The maps on offer are asked for only where no map is in
use. -/
def PcmAnswers.caps (pcm : PcmAnswers) : PcmCaps where
  currentMap := pcm.currentMap.map rolesOf
  offeredMaps :=
    match pcm.currentMap with
    | some _ => []
    | none => (mapsOf pcm.offeredMaps).getD []
  rateMin := pcm.rateMin
  rateMax := pcm.rateMax

namespace Library

/-- The names on offer. A listing that fails does so for want of memory, whatever its code. -/
def pcmHints (library : Library) : Except Error (List Hint) :=
  if library.hintCode < 0 then .error .noMemory else .ok (library.hints.map Offer.hint)

def cardNumbers (library : Library) : Except Error (List UInt32) :=
  (library.cards.numbers .cardNext).mapError (library.errorOf .systemResources "card iteration")

def cardName (library : Library) (card : UInt32) : Except Error String :=
  let steps := [(.allocateCardInfo, library.cardInfoAllocation card),
    (.cardInfo, (library.cardInfo card).1)]
  match firstFailure steps with
  | some failure =>
    .error (library.errorOf .systemResources ("card " ++ toString card.toNat ++ " info") failure)
  | none => .ok (storedText (library.cardInfo card).2)

def pcmDevices (library : Library) (card : UInt32) : Except Error (List UInt32) :=
  ((library.devices card).numbers .nextDevice).mapError
    (library.errorOf .systemResources ("card " ++ toString card.toNat ++ " devices"))

/-- The name of a device in one direction; none if there is no such stream. -/
def pcmName (library : Library) (card device : UInt32) (purpose : Purpose) :
    Except Error (Option String) :=
  if library.pcmInfoAllocation card device purpose < 0 then .error .noMemory
  else
    let answer := library.pcmInfo card device purpose
    if answer.1 = notFoundCode then .ok none
    else match check .pcmInfo answer.1 with
      | .error failure =>
        .error (library.errorOf .systemResources
          ("hw:" ++ toString card.toNat ++ "," ++ toString device.toNat ++ " " ++ purpose.label ++
            " info") failure)
      | .ok () => .ok (some (storedText answer.2))

/-- The control of a card; none if the card is gone. -/
def openControl (library : Library) (card : UInt32) : Except Error (Option CardControl) :=
  let code := library.controlCode card
  if code = notFoundCode then .ok none
  else match check .controlOpen code with
    | .error failure =>
      .error (library.errorOf .openingDevice ("hw:" ++ toString card.toNat) failure)
    | .ok () => .ok (some
      { cardName := library.cardName card
        pcmDevices := library.pcmDevices card
        pcmName := library.pcmName card })

/-- The functions that open a device and ask for its rates, in order, with their codes. -/
def openSteps (library : Library) (name : String) (purpose : Purpose) : List (Function × Int32) :=
  let pcm := library.pcm name purpose
  (.pcmOpen, pcm.code .pcmOpen) ::
    (.allocateParams, library.paramsAllocation name purpose) ::
    [.paramsAny, .setRateResample, .setAccess, .setChannelsLast, .getRateMax, .getRateMin].map
      fun function => (function, pcm.code function)

/-- Opens a device. A name with a NUL cannot be handed to the library. -/
def openPcm (library : Library) (name : String) (purpose : Purpose) : Except Error PcmCaps :=
  if name.toList.contains '\x00' then
    .error (.openingDevice ("invalid device name " ++ Text.quote name))
  else match firstFailure (library.openSteps name purpose) with
    | some failure => .error (library.errorOf .openingDevice (purpose.label ++ " " ++ name) failure)
    | none => .ok ((library.pcm name purpose).caps)

def system (library : Library) : SoundSystem where
  pcmHints := library.pcmHints
  cards := library.cardNumbers
  openControl := library.openControl
  openPcm := library.openPcm
  hwChannelMaps := fun card device purpose => mapsOf (library.hwMaps card device purpose)

end Library

end SoundDevices.Alsa
