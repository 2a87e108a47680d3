set_option autoImplicit false

namespace SoundDevices.Toml

abbrev Reader (α : Type) := List Char → Option (α × List Char)

def digitValue (c : Char) : Nat :=
  if c.isDigit then c.toNat - '0'.toNat
  else if 'a' ≤ c then c.toNat - 'a'.toNat + 10
  else c.toNat - 'A'.toNat + 10

def digitsValue (base : Nat) (digits : List Char) : Nat :=
  digits.foldl (fun n c => n * base + digitValue c) 0

def isHexDigit (c : Char) : Bool :=
  c.isDigit || ('a' ≤ c && c ≤ 'f') || ('A' ≤ c && c ≤ 'F')

def isOctalDigit (c : Char) : Bool := '0' ≤ c && c ≤ '7'

def isBinaryDigit (c : Char) : Bool := c == '0' || c == '1'

/-- The digits that follow a digit; an underscore may stand before each. -/
def moreDigits (isDigit : Char → Bool) : List Char → List Char × List Char
  | '_' :: c :: rest =>
    if isDigit c then
      let more := moreDigits isDigit rest
      (c :: more.1, more.2)
    else ([], '_' :: c :: rest)
  | c :: rest =>
    if isDigit c then
      let more := moreDigits isDigit rest
      (c :: more.1, more.2)
    else ([], c :: rest)
  | [] => ([], [])

/-- One or more digits, with underscores between them. -/
def readDigits (isDigit : Char → Bool) : Reader (List Char)
  | c :: rest =>
    if isDigit c then
      let more := moreDigits isDigit rest
      some (c :: more.1, more.2)
    else none
  | [] => none

/-- A plus or minus sign, if there is one; tells whether it is a minus. -/
def readSign : List Char → Bool × List Char
  | '+' :: rest => (false, rest)
  | '-' :: rest => (true, rest)
  | rest => (false, rest)

/-- The digits of a decimal integer: a zero alone, or digits that do not begin with one. -/
def readWhole : Reader (List Char)
  | '0' :: rest => some (['0'], rest)
  | text => readDigits Char.isDigit text

def fits (n : Int) : Bool := Int64.minValue.toInt ≤ n && n ≤ Int64.maxValue.toInt

def readBased (base : Nat) (isDigit : Char → Bool) (text : List Char) :
    Option (Int × List Char) := do
  let (digits, rest) ← readDigits isDigit text
  let n : Int := digitsValue base digits
  if fits n then some (n, rest) else none

/-- An integer. Bases other than ten have a mark and no sign. -/
def readInteger : Reader Int
  | '0' :: 'x' :: rest => readBased 16 isHexDigit rest
  | '0' :: 'o' :: rest => readBased 8 isOctalDigit rest
  | '0' :: 'b' :: rest => readBased 2 isBinaryDigit rest
  | text => do
    let (negative, rest) := readSign text
    let (digits, rest) ← readWhole rest
    let size : Int := digitsValue 10 digits
    let n := if negative then -size else size
    if fits n then some (n, rest) else none

/-- The least number too large for a double: half a step above the largest one. -/
def doubleLimit : Nat := 1 <<< 1024 - 1 <<< 970

/-- The number `digits * 10^(exponent - places)` is too large for a double. -/
def overflows (digits : List Char) (places : Nat) (negativeExponent : Bool) (exponent : Nat) :
    Bool :=
  let value := digitsValue 10 digits
  let width := (digits.dropWhile (· == '0')).length
  let shift : Int := (if negativeExponent then -(exponent : Int) else exponent) - places
  if value == 0 || (width : Int) + shift < 300 then false
  else if 310 < (width : Int) + shift then true
  else if 0 ≤ shift then doubleLimit ≤ value * Nat.pow 10 shift.toNat
  else doubleLimit * Nat.pow 10 (-shift).toNat ≤ value

def readExponent : Reader (Bool × Nat)
  | e :: rest =>
    if e == 'e' || e == 'E' then do
      let (negative, rest) := readSign rest
      let (digits, rest) ← readDigits Char.isDigit rest
      return ((negative, digitsValue 10 digits), rest)
    else none
  | [] => none

def readFraction : Reader (List Char)
  | '.' :: rest => readDigits Char.isDigit rest
  | _ => none

/-- A float with a fraction, an exponent or both. One that is too large is refused; of a negative
one nothing is asked. -/
def readDecimal (text : List Char) : Option (Unit × List Char) := do
  let (negative, rest) := readSign text
  let (whole, rest) ← readWhole rest
  match readFraction rest with
  | some (fraction, rest) =>
    let ((small, size), rest) := (readExponent rest).getD ((false, 0), rest)
    if !negative && overflows (whole ++ fraction) fraction.length small size then none
    else some ((), rest)
  | none =>
    let ((small, size), rest) ← readExponent rest
    if !negative && overflows whole 0 small size then none else some ((), rest)

/-- A float: decimal, infinite, or not a number. -/
def readFloat (text : List Char) : Option (Unit × List Char) :=
  match (readSign text).2 with
  | 'i' :: 'n' :: 'f' :: rest => some ((), rest)
  | 'n' :: 'a' :: 'n' :: rest => some ((), rest)
  | _ => readDecimal text

/-- Two decimal digits and their value, which must lie between two bounds. -/
def readTwo (low high : Nat) : Reader Nat
  | a :: b :: rest =>
    let n := digitsValue 10 [a, b]
    if a.isDigit && b.isDigit && low ≤ n && n ≤ high then some (n, rest) else none
  | _ => none

def daysIn (year month : Nat) : Nat :=
  if month = 2 then
    if (year % 4 = 0 ∧ year % 100 ≠ 0) ∨ year % 400 = 0 then 29 else 28
  else if month = 4 ∨ month = 6 ∨ month = 9 ∨ month = 11 then 30
  else 31

def readDate : Reader Unit
  | a :: b :: c :: d :: '-' :: rest => do
    if !([a, b, c, d].all Char.isDigit) then none
    let (month, rest) ← readTwo 1 12 rest
    match rest with
    | '-' :: rest =>
      let (_, rest) ← readTwo 1 (daysIn (digitsValue 10 [a, b, c, d]) month) rest
      return ((), rest)
    | _ => none
  | _ => none

/-- A time of the day. A minute may have a 61st second. -/
def readTime (text : List Char) : Option (Unit × List Char) := do
  let (_, rest) ← readTwo 0 23 text
  match rest with
  | ':' :: rest =>
    let (_, rest) ← readTwo 0 59 rest
    match rest with
    | ':' :: rest =>
      let (_, rest) ← readTwo 0 60 rest
      match rest with
      | '.' :: c :: rest =>
        if c.isDigit then return ((), rest.dropWhile Char.isDigit) else none
      | '.' :: [] => none
      | rest => return ((), rest)
    | _ => none
  | _ => none

def readOffset : List Char → Option (List Char)
  | 'Z' :: rest | 'z' :: rest => some rest
  | sign :: rest =>
    if sign == '+' || sign == '-' then do
      let (_, rest) ← readTwo 0 23 rest
      match rest with
      | ':' :: rest =>
        let (_, rest) ← readTwo 0 59 rest
        return rest
      | _ => none
    else some (sign :: rest)
  | [] => some []

/-- A moment: a date, a time, or both, then with or without an offset. -/
def readMoment (text : List Char) : Option (Unit × List Char) :=
  match readDate text with
  | none => readTime text
  | some ((), rest) =>
    match rest with
    | c :: more =>
      if c == 'T' || c == 't' || c == ' ' then
        match readTime more with
        | none => some ((), rest)
        | some ((), rest) => (readOffset rest).map fun rest => ((), rest)
      else some ((), rest)
    | [] => some ((), [])

end SoundDevices.Toml
