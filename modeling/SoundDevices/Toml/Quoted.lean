import SoundDevices.Toml.Scalar

set_option autoImplicit false

namespace SoundDevices.Toml

/-- Characters that stand for themselves in a comment: all but the controls other than the tab. -/
def isPlain (c : Char) : Bool :=
  c == '\t' || (0x20 ≤ c.toNat && c.toNat ≠ 0x7F)

def isBlank (c : Char) : Bool := c == ' ' || c == '\t'

def skipBlanks (text : List Char) : List Char := text.dropWhile isBlank

def afterNewline? : List Char → Option (List Char)
  | '\n' :: rest => some rest
  | '\r' :: '\n' :: rest => some rest
  | _ => none

def scalar? (n : Nat) : Option Char :=
  if n < 0xD800 ∨ (0xDFFF < n ∧ n < 0x110000) then some (Char.ofNat n) else none

def hexScalar? (digits : List Char) : Option Char :=
  if digits.all isHexDigit then scalar? (digitsValue 16 digits) else none

def escaped? : Char → Option Char
  | 'b' => some '\x08'
  | 't' => some '\t'
  | 'n' => some '\n'
  | 'f' => some '\x0c'
  | 'r' => some '\r'
  | '"' => some '"'
  | '\\' => some '\\'
  | _ => none

def prepend (c : Char) (read : List Char × List Char) : List Char × List Char :=
  (c :: read.1, read.2)

/-- The rest of a string with escapes, after its opening quote. -/
def readBasic : Reader (List Char)
  | [] => none
  | '"' :: rest => some ([], rest)
  | '\\' :: 'u' :: a :: b :: c :: d :: rest => do
    let value ← hexScalar? [a, b, c, d]
    return prepend value (← readBasic rest)
  | '\\' :: 'U' :: a :: b :: c :: d :: e :: f :: g :: h :: rest => do
    let value ← hexScalar? [a, b, c, d, e, f, g, h]
    return prepend value (← readBasic rest)
  | '\\' :: letter :: rest => do
    let value ← escaped? letter
    return prepend value (← readBasic rest)
  | c :: rest => if isPlain c && c != '\\' then (readBasic rest).map (prepend c) else none

/-- The rest of a literal string, after its opening quote. -/
def readLiteral : Reader (List Char)
  | [] => none
  | '\'' :: rest => some ([], rest)
  | c :: rest => if isPlain c then (readLiteral rest).map (prepend c) else none

/-- The quotes at the end of a string of several lines: three close it, and up to two before them
belong to it. -/
def closing (quote : Char) (count : Nat) (rest : List Char) : Option (List Char × List Char) :=
  if 3 ≤ count then some (List.replicate (count - 3) quote, rest) else none

/-- Puts the quotes that did not close a string in front of what follows. -/
def withQuotes (quote : Char) (count : Nat) (read : List Char × List Char) :
    List Char × List Char :=
  (List.replicate count quote ++ read.1, read.2)

/-- A backslash before these characters joins two lines. -/
def joinsLines (rest : List Char) : Bool := (afterNewline? (skipBlanks rest)).isSome

/-- The rest of a string of several lines with escapes. `joining` says that blanks and line ends
are being passed over, and `quotes` counts the quotes just read. -/
def readLongBasic : (joining : Bool) → (quotes : Nat) → Reader (List Char)
  | _, quotes, [] => closing '"' quotes []
  | joining, quotes, '"' :: rest =>
    if quotes = 5 then none else
      (if joining then readLongBasic false 1 rest else readLongBasic false (quotes + 1) rest)
  | joining, quotes, '\n' :: rest =>
    if 3 ≤ quotes then closing '"' quotes ('\n' :: rest)
    else if joining then readLongBasic true 0 rest
    else ((readLongBasic false 0 rest).map (prepend '\n')).map (withQuotes '"' quotes)
  | joining, quotes, '\r' :: '\n' :: rest =>
    if 3 ≤ quotes then closing '"' quotes ('\r' :: '\n' :: rest)
    else if joining then readLongBasic true 0 rest
    else ((readLongBasic false 0 rest).map (prepend '\n')).map (withQuotes '"' quotes)
  | _, quotes, '\\' :: 'u' :: a :: b :: c :: d :: rest =>
    if 3 ≤ quotes then closing '"' quotes ('\\' :: 'u' :: a :: b :: c :: d :: rest)
    else do
      let value ← hexScalar? [a, b, c, d]
      let read ← readLongBasic false 0 rest
      return withQuotes '"' quotes (prepend value read)
  | _, quotes, '\\' :: 'U' :: a :: b :: c :: d :: e :: f :: g :: h :: rest =>
    if 3 ≤ quotes then
      closing '"' quotes ('\\' :: 'U' :: a :: b :: c :: d :: e :: f :: g :: h :: rest)
    else do
      let value ← hexScalar? [a, b, c, d, e, f, g, h]
      let read ← readLongBasic false 0 rest
      return withQuotes '"' quotes (prepend value read)
  | _, quotes, '\\' :: letter :: rest =>
    if 3 ≤ quotes then closing '"' quotes ('\\' :: letter :: rest)
    else if joinsLines (letter :: rest) then
      (readLongBasic true 0 (letter :: rest)).map (withQuotes '"' quotes)
    else do
      let value ← escaped? letter
      let read ← readLongBasic false 0 rest
      return withQuotes '"' quotes (prepend value read)
  | joining, quotes, c :: rest =>
    if 3 ≤ quotes then closing '"' quotes (c :: rest)
    else if joining && isBlank c then readLongBasic true 0 rest
    else if isPlain c && c != '\\' then
      ((readLongBasic false 0 rest).map (prepend c)).map (withQuotes '"' quotes)
    else none

/-- The rest of a literal string of several lines; `quotes` counts the quotes just read. -/
def readLongLiteral : (quotes : Nat) → Reader (List Char)
  | quotes, [] => closing '\'' quotes []
  | quotes, '\'' :: rest => if quotes = 5 then none else readLongLiteral (quotes + 1) rest
  | quotes, '\r' :: '\n' :: rest =>
    if 3 ≤ quotes then closing '\'' quotes ('\r' :: '\n' :: rest)
    else ((readLongLiteral 0 rest).map (prepend '\n')).map (withQuotes '\'' quotes)
  | quotes, c :: rest =>
    if 3 ≤ quotes then closing '\'' quotes (c :: rest)
    else if isPlain c || c == '\n' then
      ((readLongLiteral 0 rest).map (prepend c)).map (withQuotes '\'' quotes)
    else none

/-- The text without the line end right after an opening quote. -/
def trimNewline (text : List Char) : List Char := (afterNewline? text).getD text

/-- A string of any of the four kinds. -/
def readString : Reader (List Char)
  | '"' :: '"' :: '"' :: rest => readLongBasic false 0 (trimNewline rest)
  | '"' :: rest => readBasic rest
  | '\'' :: '\'' :: '\'' :: rest => readLongLiteral 0 (trimNewline rest)
  | '\'' :: rest => readLiteral rest
  | _ => none

/-- Characters of a key without quotes. -/
def isBareKeyChar (c : Char) : Bool :=
  c.isAlphanum || c == '-' || c == '_'

def readKeyPart : Reader String
  | '"' :: rest => (readBasic rest).map fun read => (String.ofList read.1, read.2)
  | '\'' :: rest => (readLiteral rest).map fun read => (String.ofList read.1, read.2)
  | text =>
    let bare := text.takeWhile isBareKeyChar
    if bare.isEmpty then none else some (String.ofList bare, text.dropWhile isBareKeyChar)

/-- The parts of a key with dots between them. The bound is met by the length of the text. -/
def readKeyParts : (bound : Nat) → Reader (List String)
  | 0, _ => none
  | bound + 1, text => do
    let (part, rest) ← readKeyPart (skipBlanks text)
    match skipBlanks rest with
    | '.' :: rest =>
      let (parts, rest) ← readKeyParts bound rest
      return (part :: parts, rest)
    | rest => return ([part], rest)

/-- No key has as many parts, and no value lies as deep in others, as this. -/
def nestingLimit : Nat := 80

def readKey (text : List Char) : Option (List String × List Char) := do
  let (parts, rest) ← readKeyParts (text.length + 1) text
  if parts.length < nestingLimit then some (parts, rest) else none

end SoundDevices.Toml
