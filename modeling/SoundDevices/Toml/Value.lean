set_option autoImplicit false

namespace SoundDevices

/-- How a table came to be: opened by its own header, implied by the header of a table below it,
made by a dotted key, or written on one line. This decides who may add to it later. -/
inductive TableStyle where
  | header
  | implied
  | dotted
  | closed
  deriving DecidableEq, Repr

/-- A TOML value. Floats and moments in time are told apart from the other kinds and otherwise
forgotten, since no setting is one. `tables` is an array whose members have headers of their own. -/
inductive Toml where
  | string (text : String)
  | integer (n : Int)
  | boolean (b : Bool)
  | float
  | moment
  | array (items : List Toml)
  | table (style : TableStyle) (entries : List (String × Toml))
  | tables (members : List (List (String × Toml)))

namespace Toml

abbrev Entries := List (String × Toml)

def replace (key : String) (value : Toml) : Entries → Entries
  | [] => []
  | entry :: rest =>
    if entry.1 == key then (key, value) :: rest else entry :: replace key value rest

def remove (key : String) (entries : Entries) : Entries := entries.filter (·.1 != key)

/-- Adds a value under a dotted key: the tables named by `path` and then the key itself. Missing
tables are made; a table with a header of its own, or on one line, cannot be added to in this way,
and a table that a header implied cannot be the last of the path. `mayHold` tells whether the
table at hand takes the key itself. A key stands only once. -/
def insertDotted (value : Toml) (key : String) :
    (path : List String) → (mayHold : Bool) → Entries → Option Entries
  | [], mayHold, entries =>
    if mayHold && (entries.lookup key).isNone then some (entries ++ [(key, value)]) else none
  | step :: path, _, entries =>
    match entries.lookup step with
    | none => do
      let made ← insertDotted value key path true []
      return entries ++ [(step, .table .dotted made)]
    | some (.table .implied below) => do
      let below ← insertDotted value key path false below
      return replace step (.table .implied below) entries
    | some (.table .dotted below) => do
      let below ← insertDotted value key path true below
      return replace step (.table .dotted below) entries
    | some (.tables members) =>
      match members.reverse with
      | [] => none
      | last :: earlier => do
        let last ← insertDotted value key path false last
        return replace step (.tables (last :: earlier).reverse) entries
    | some _ => none

/-- Changes the table that a header path leads to. Missing tables are implied, and of an array of
tables the last member is meant. -/
def changeAt {α : Type} (change : Entries → Option (α × Entries)) :
    List String → Entries → Option (α × Entries)
  | [], entries => change entries
  | step :: path, entries =>
    match entries.lookup step with
    | none => do
      let (result, made) ← changeAt change path []
      return (result, entries ++ [(step, .table .implied made)])
    | some (.table .closed _) => none
    | some (.table style below) => do
      let (result, below) ← changeAt change path below
      return (result, replace step (.table style below) entries)
    | some (.tables members) =>
      match members.reverse with
      | [] => none
      | last :: earlier => do
        let (result, last) ← changeAt change path last
        return (result, replace step (.tables (last :: earlier).reverse) entries)
    | some _ => none

/-- A document being read: what is finished, and the table whose lines are being read, with the
path of its header and whether it is a member of an array of tables. -/
structure Draft where
  finished : Entries := []
  path : List String := []
  isMember : Bool := false
  entries : Entries := []

namespace Draft

def fileUnder (draft : Draft) (name : String) (siblings : Entries) : Option (Unit × Entries) :=
  match draft.isMember, siblings.lookup name with
  | true, none => some ((), siblings ++ [(name, .tables [draft.entries])])
  | true, some (.tables members) =>
    some ((), replace name (.tables (members ++ [draft.entries])) siblings)
  | false, none => some ((), siblings ++ [(name, .table .header draft.entries)])
  | _, _ => none

def file (draft : Draft) : Option Entries :=
  match draft.path.getLast? with
  | none => some draft.entries
  | some name => (changeAt (draft.fileUnder name) draft.path.dropLast draft.finished).map (·.2)

/-- Takes a table that a header opens out of its siblings. It must be new, or only implied so
far. -/
def openUnder (name : String) (siblings : Entries) : Option (Entries × Entries) :=
  match siblings.lookup name with
  | none => some ([], siblings)
  | some (.table .implied below) => some (below, remove name siblings)
  | some _ => none

/-- Makes sure that an array of tables stands under a name. -/
def openArrayUnder (name : String) (siblings : Entries) : Option (Unit × Entries) :=
  match siblings.lookup name with
  | none => some ((), siblings ++ [(name, .tables [])])
  | some (.tables _) => some ((), siblings)
  | some _ => none

def openTable (draft : Draft) (path : List String) : Option Draft := do
  let finished ← draft.file
  let name ← path.getLast?
  let (entries, finished) ← changeAt (openUnder name) path.dropLast finished
  return { finished, path, isMember := false, entries }

def openMember (draft : Draft) (path : List String) : Option Draft := do
  let finished ← draft.file
  let name ← path.getLast?
  let ((), finished) ← changeAt (openArrayUnder name) path.dropLast finished
  return { finished, path, isMember := true, entries := [] }

def addEntry (draft : Draft) (key : List String) (value : Toml) : Option Draft := do
  let name ← key.getLast?
  let entries ← insertDotted value name key.dropLast true draft.entries
  return { draft with entries }

end Draft

end Toml

end SoundDevices
