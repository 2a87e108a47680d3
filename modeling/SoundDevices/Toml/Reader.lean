import SoundDevices.Toml.Quoted
import SoundDevices.Toml.Value

set_option autoImplicit false

namespace SoundDevices.Toml

def skipComment : List Char → List Char
  | '#' :: rest => rest.dropWhile isPlain
  | text => text

/-- The text after the rest of a line that holds nothing but blanks and a comment. -/
def endLine (text : List Char) : Option (List Char) :=
  match skipComment (skipBlanks text) with
  | [] => some []
  | rest => afterNewline? rest

/-- The text after blanks, comments and line ends. A comment has a line end. The bound is met by
the length of the text. -/
def skipLines : (bound : Nat) → List Char → Option (List Char)
  | 0, _ => none
  | bound + 1, text =>
    match skipBlanks text with
    | '#' :: rest => (afterNewline? (rest.dropWhile isPlain)).bind (skipLines bound)
    | rest =>
      match afterNewline? rest with
      | some rest => skipLines bound rest
      | none => some rest

def skipFiller (text : List Char) : Option (List Char) := skipLines (text.length + 1) text

def readBoolean : Reader Bool
  | 't' :: 'r' :: 'u' :: 'e' :: rest => some (true, rest)
  | 'f' :: 'a' :: 'l' :: 's' :: 'e' :: rest => some (false, rest)
  | _ => none

def readScalar (text : List Char) : Option (Toml × List Char) :=
  match readString text with
  | some (chars, rest) => some (.string (String.ofList chars), rest)
  | none =>
    match readBoolean text with
    | some (b, rest) => some (.boolean b, rest)
    | none =>
      match readMoment text with
      | some ((), rest) => some (.moment, rest)
      | none =>
        match readFloat text with
        | some ((), rest) => some (.float, rest)
        | none => (readInteger text).map fun read => (.integer read.1, read.2)

mutual

/-- A value at the head of a text. `room` is how many values may still lie around each other; the
bound on the number of values is met by twice the length of the text. -/
def readValue : (bound room : Nat) → Reader Toml
  | 0, _, _ => none
  | bound + 1, room, '[' :: rest => do
    if room = 0 then none
    let rest ← skipFiller rest
    match rest with
    | ']' :: rest => return (.array [], rest)
    | rest =>
      let (items, rest) ← readItems bound (room - 1) rest
      return (.array items, rest)
  | bound + 1, room, '\x7b' :: rest => do
    if room = 0 then none
    match skipBlanks rest with
    | '\x7d' :: rest => return (.table .closed [], rest)
    | rest =>
      let (entries, rest) ← readEntries bound (room - 1) [] rest
      return (.table .closed entries, rest)
  | _ + 1, _, text => readScalar text

/-- The items of an array, up to its closing bracket. A comma may follow the last one. -/
def readItems : (bound room : Nat) → Reader (List Toml)
  | 0, _, _ => none
  | bound + 1, room, text => do
    let (item, rest) ← readValue bound room text
    let rest ← skipFiller rest
    match rest with
    | ']' :: rest => return ([item], rest)
    | ',' :: rest =>
      let rest ← skipFiller rest
      match rest with
      | ']' :: rest => return ([item], rest)
      | rest =>
        let (items, rest) ← readItems bound room rest
        return (item :: items, rest)
    | _ => none

/-- The entries of a table on one line, up to its closing brace, after those read before. -/
def readEntries : (bound room : Nat) → Entries → Reader Entries
  | 0, _, _, _ => none
  | bound + 1, room, before, text => do
    let (key, rest) ← readKey text
    match rest with
    | '=' :: rest =>
      let (value, rest) ← readValue bound room (skipBlanks rest)
      let name ← key.getLast?
      let entries ← insertDotted value name key.dropLast true before
      match skipBlanks rest with
      | '\x7d' :: rest => return (entries, rest)
      | ',' :: rest => readEntries bound room entries rest
      | _ => none
    | _ => none

end

/-- The header of a table or of a member of an array of tables, with the rest of its line. -/
def readHeader (draft : Draft) : List Char → Option (Draft × List Char)
  | '[' :: rest => do
    let (path, rest) ← readKey rest
    match rest with
    | ']' :: ']' :: rest => return (← draft.openMember path, ← endLine rest)
    | _ => none
  | text => do
    let (path, rest) ← readKey text
    match rest with
    | ']' :: rest => return (← draft.openTable path, ← endLine rest)
    | _ => none

/-- A key and its value, with the rest of the line. -/
def readEntry (draft : Draft) (text : List Char) : Option (Draft × List Char) := do
  let (key, rest) ← readKey text
  match rest with
  | '=' :: rest =>
    let rest := skipBlanks rest
    let (value, rest) ← readValue (2 * rest.length + 2) (nestingLimit - 1) rest
    return (← draft.addEntry key value, ← endLine rest)
  | _ => none

/-- The lines of a document. The bound is met by the length of the text. -/
def readLines : (bound : Nat) → Draft → List Char → Option Draft
  | 0, _, _ => none
  | bound + 1, draft, text =>
    match skipBlanks text with
    | [] => some draft
    | '#' :: rest => (endLine ('#' :: rest)).bind (readLines bound draft)
    | '[' :: rest => (readHeader draft rest).bind fun read => readLines bound read.1 read.2
    | rest =>
      match afterNewline? rest with
      | some rest => readLines bound draft rest
      | none => (readEntry draft rest).bind fun read => readLines bound read.1 read.2

/-- The text without a byte order mark at its start. -/
def trimMark : List Char → List Char
  | '\uFEFF' :: rest => rest
  | text => text

/-- The entries of the table that a document of TOML 1.0 is, with a limit on how deep values lie
within each other. -/
def read? (text : String) : Option Entries := do
  let chars := trimMark text.toList
  let draft ← readLines (chars.length + 1) {} chars
  draft.file

end SoundDevices.Toml
