import SoundDevices.Config.Watch
import SoundDevices.Toml.Reader

set_option autoImplicit false

namespace SoundDevices

namespace Toml

def asText? : Toml → Option String
  | .string text => some text
  | _ => none

/-- The number of an integer from 0 to 2^32 - 1. -/
def asWord? : Toml → Option UInt32
  | .integer n => if 0 ≤ n ∧ n < (UInt32.size : Int) then some (UInt32.ofNat n.toNat) else none
  | _ => none

def asBoolean? : Toml → Option Bool
  | .boolean b => some b
  | _ => none

def isEmptyCollection : Toml → Bool
  | .table _ [] => true
  | .array [] => true
  | .tables [] => true
  | _ => false

end Toml

/-- A backend in TOML: its name, or a table with the name as its only key and nothing under it. -/
def BackendKind.ofToml? : Toml → Option BackendKind
  | .table _ [(key, value)] => if value.isEmptyCollection then ofName? key else none
  | value => value.asText?.bind ofName?

namespace WatchConfig

def readSetting {α : Type} (read : Toml → Option α) : Option Toml → Option (Option α)
  | none => some none
  | some value => (read value).map some

def ofTomlFields? (backend watchDir preferredRate : Option Toml) : Option WatchConfig := do
  let backend ← readSetting BackendKind.ofToml? backend
  let watchDir ← readSetting Toml.asText? watchDir
  let preferredRate ← readSetting Toml.asWord? preferredRate
  return ofValues backend watchDir preferredRate

/-- The configuration that a TOML value is: a table by the names of its keys, an array by its
order. A moment in time has none of the keys, so that every setting is left out. -/
def ofToml? : Toml → Option WatchConfig
  | .table _ entries =>
    ofTomlFields? (entries.lookup "backend") (entries.lookup "watch_dir")
      (entries.lookup "preferred_sample_rate")
  | .array items => ofTomlFields? items[0]? items[1]? items[2]?
  | .tables members =>
    let items := members.map (Toml.table .header)
    ofTomlFields? items[0]? items[1]? items[2]?
  | .moment => some {}
  | _ => none

end WatchConfig

namespace AppConfig

def ofEntries? (entries : Toml.Entries) : Option AppConfig := do
  let watch ← WatchConfig.readSetting WatchConfig.ofToml? (entries.lookup "watch")
  let json ← WatchConfig.readSetting Toml.asBoolean? (entries.lookup "json")
  return { watch := watch.getD {}, json := json.getD false }

/-- The settings in a document. What is wrong with one that holds none is not told further. -/
def ofToml (text : String) : Except String AppConfig :=
  match (Toml.read? text).bind ofEntries? with
  | none => .error "TOML parse error"
  | some app => .ok app

end AppConfig

end SoundDevices
