import SoundDevices.Config.Watch
import SoundDevices.Json.Reader

set_option autoImplicit false

namespace SoundDevices

namespace Json

def asText? : Json → Option String
  | .string pieces => text? pieces
  | _ => none

/-- The number of a value that is a natural number below 2^32. -/
def asWord? : Json → Option UInt32
  | .number (.natural n) => if n < UInt32.size then some (UInt32.ofNat n) else none
  | _ => none

end Json

/-- A backend in JSON: its name, or an object with the name as its only key and null under it. -/
def BackendKind.ofJson? : Json → Option BackendKind
  | .object [(key, .null)] => (Json.text? key).bind ofName?
  | value => value.asText?.bind ofName?

namespace WatchConfig

def readField {α : Type} (read : Json → Option α) : Option Json → Option (Option α)
  | none => some none
  | some value => (read value).map some

def ofJsonFields? (backend watchDir preferredRate : Option Json) : Option WatchConfig := do
  let backend ← readField BackendKind.ofJson? backend
  let watchDir ← readField Json.asText? watchDir
  let preferredRate ← readField Json.asWord? preferredRate
  return ofValues backend watchDir preferredRate

/-- The members of an object by their keys; none if a key is no text. -/
def namedMembers (members : List (List StringPiece × Json)) : Option (List (String × Json)) :=
  members.mapM fun member => (Json.text? member.1).map fun key => (key, member.2)

/-- The only member with a key, if there is one; fails if there are more. -/
def uniqueMember? (members : List (String × Json)) (key : String) : Option (Option Json) :=
  match members.filter (·.1 == key) with
  | [] => some none
  | [member] => some (some member.2)
  | _ => none

/-- The configuration that a JSON value is: an object with the fields by name, or an array with the
fields in order. Every field may be left out. Keys that are not known are passed over, a known key
may not stand twice, and an array may not be longer than the list of fields. -/
def ofJson? : Json → Option WatchConfig
  | .object members => do
    let members ← namedMembers members
    let backend ← uniqueMember? members "backend"
    let watchDir ← uniqueMember? members "watch_dir"
    let preferredRate ← uniqueMember? members "preferred_sample_rate"
    ofJsonFields? backend watchDir preferredRate
  | .array items =>
    if items.length ≤ 3 then ofJsonFields? items[0]? items[1]? items[2]? else none
  | _ => none

def readJson? (text : String) : Option WatchConfig := (Json.read? text).bind ofJson?

end WatchConfig

end SoundDevices
