set_option autoImplicit false

namespace SoundDevices

/-- One piece of a JSON string: a character, or a surrogate that an escape names. -/
inductive StringPiece where
  | char (c : Char)
  | surrogate (unit : Nat)
  deriving DecidableEq, Repr

/-- A number: a natural one as its value, any other as it was written. -/
inductive JsonNumber where
  | natural (n : Nat)
  | other (text : List Char)
  deriving DecidableEq, Repr

/-- A JSON value. The members of an object keep their order and may repeat a key. -/
inductive Json where
  | null
  | boolean (b : Bool)
  | number (n : JsonNumber)
  | string (pieces : List StringPiece)
  | array (items : List Json)
  | object (members : List (List StringPiece × Json))

namespace Json

/-- The character that a pair of surrogates stands for. -/
def joinPair (high low : Nat) : Char :=
  Char.ofNat (0x10000 + (high - 0xD800) * 0x400 + (low - 0xDC00))

def isHigh (unit : Nat) : Bool := 0xD800 ≤ unit && unit ≤ 0xDBFF

def isLow (unit : Nat) : Bool := 0xDC00 ≤ unit && unit ≤ 0xDFFF

/-- The characters of a string; none if a surrogate stands alone. -/
def joinPieces : List StringPiece → Option (List Char)
  | [] => some []
  | .char c :: rest => (joinPieces rest).map (c :: ·)
  | .surrogate high :: .surrogate low :: rest =>
    if isHigh high && isLow low then (joinPieces rest).map (joinPair high low :: ·) else none
  | .surrogate _ :: _ => none

def pieces (text : List Char) : List StringPiece := text.map .char

theorem joinPieces_pieces (text : List Char) : joinPieces (pieces text) = some text := by
  induction text with
  | nil => rfl
  | cons c text ih =>
    change (joinPieces (pieces text)).map (c :: ·) = some (c :: text)
    rw [ih]
    rfl

def text? (pieces : List StringPiece) : Option String :=
  (joinPieces pieces).map String.ofList

def ofString (text : String) : Json := .string (pieces text.toList)

def ofNat (n : Nat) : Json := .number (.natural n)

def ofOption {α : Type} (write : α → Json) : Option α → Json
  | none => .null
  | some value => write value

def ofMembers (members : List (String × Json)) : Json :=
  .object (members.map fun member => (pieces member.1.toList, member.2))

def fourHexDigits (n : Nat) : List Char :=
  let digits := Nat.toDigits 16 n
  List.replicate (4 - digits.length) '0' ++ digits

/-- One piece inside the quotes: the quote, the backslash and the controls are escaped, the common
controls by a letter. -/
def renderPiece : StringPiece → List Char
  | .surrogate unit => '\\' :: 'u' :: fourHexDigits unit
  | .char c =>
    if c = '"' then ['\\', '"']
    else if c = '\\' then ['\\', '\\']
    else if c = '\x08' then ['\\', 'b']
    else if c = '\x0c' then ['\\', 'f']
    else if c = '\n' then ['\\', 'n']
    else if c = '\r' then ['\\', 'r']
    else if c = '\t' then ['\\', 't']
    else if c.toNat < 0x20 then '\\' :: 'u' :: fourHexDigits c.toNat
    else [c]

def renderString (pieces : List StringPiece) : List Char :=
  '"' :: pieces.flatMap renderPiece ++ ['"']

def separate : List (List Char) → List Char
  | [] => []
  | [part] => part
  | part :: rest => part ++ ',' :: separate rest

mutual

/-- A value as text, without blanks. -/
def renderChars : Json → List Char
  | .null => "null".toList
  | .boolean b => (if b then "true" else "false").toList
  | .number (.natural n) => Nat.toDigits 10 n
  | .number (.other text) => text
  | .string pieces => renderString pieces
  | .array items => '[' :: separate (renderItems items) ++ [']']
  | .object members => '\x7b' :: separate (renderMembers members) ++ ['\x7d']

def renderItems : List Json → List (List Char)
  | [] => []
  | item :: rest => renderChars item :: renderItems rest

def renderMembers : List (List StringPiece × Json) → List (List Char)
  | [] => []
  | (key, value) :: rest => (renderString key ++ ':' :: renderChars value) :: renderMembers rest

end

/-- A value as text on one line. -/
def render (value : Json) : String := String.ofList (renderChars value)

end Json

end SoundDevices
