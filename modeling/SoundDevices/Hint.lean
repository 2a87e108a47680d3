import SoundDevices.Device
import SoundDevices.Text.Ascii

set_option autoImplicit false

namespace SoundDevices

open Text

/-- A name offered by the sound system. Without a direction it serves both purposes. -/
structure Hint where
  name : Option String := none
  description : Option String := none
  direction : Option Purpose := none
  deriving DecidableEq, Repr, Inhabited

namespace Hint

def purposes (hint : Hint) : List Purpose :=
  match hint.direction with
  | some purpose => [purpose]
  | none => Purpose.all

theorem mem_purposes (hint : Hint) (purpose : Purpose) :
    purpose ∈ hint.purposes ↔ hint.direction = none ∨ hint.direction = some purpose := by
  unfold purposes
  cases hint.direction with
  | none => simp [Purpose.mem_all]
  | some own => simp [eq_comm]

/-- A speaker alias: `surround`, one or more digits, a colon and whatever follows. -/
def isSurroundAlias (name : List Char) : Bool :=
  match after? "surround".toList name with
  | none => false
  | some rest =>
    !(rest.takeWhile Char.isDigit).isEmpty && (rest.dropWhile Char.isDigit).head? == some ':'

/-- Names without a use of their own: the `null` sink, the `sysdefault:` alias of `default:`, and
the aliases for a fixed set of speakers. -/
def isExcludedName (name : String) : Bool :=
  name.toList == "null".toList || "sysdefault:".toList.isPrefixOf name.toList ||
    "front:".toList.isPrefixOf name.toList || isSurroundAlias name.toList

def isDefaultName (name : String) : Bool :=
  "default:".toList.isPrefixOf name.toList

/-- The first line end becomes a colon and a blank. -/
def joinFirstLine : List Char → List Char
  | [] => []
  | '\n' :: rest => ':' :: ' ' :: rest
  | c :: rest => c :: joinFirstLine rest

@[simp] theorem joinFirstLine_nil : joinFirstLine [] = [] := rfl

@[simp] theorem joinFirstLine_newline (rest : List Char) :
    joinFirstLine ('\n' :: rest) = ':' :: ' ' :: rest := rfl

theorem joinFirstLine_cons (c : Char) (rest : List Char) (other : c ≠ '\n') :
    joinFirstLine (c :: rest) = c :: joinFirstLine rest := by
  simp [joinFirstLine]

/-- The description shown for the one that a hint carries. -/
def composeDescription (raw : String) : String :=
  String.ofList (joinFirstLine raw.toList)

/-- The description speaks of an output, in whatever case. -/
def mentionsOutput (description : String) : Bool :=
  occursIn "output".toList (lower description.toList)

def shownDescription (hint : Hint) : String :=
  composeDescription (hint.description.getD "")

/-- The purposes for which a hint becomes a device. A name that speaks of an output is no input. -/
def devicePurposes (hint : Hint) : List Purpose :=
  hint.purposes.filter fun purpose =>
    !(purpose == .input && mentionsOutput hint.shownDescription)

end Hint

end SoundDevices
