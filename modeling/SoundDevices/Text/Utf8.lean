set_option autoImplicit false

namespace SoundDevices

/-- Bytes as the operating system hands them over. -/
abbrev Bytes := List UInt8

namespace Text

def encode (text : String) : Bytes :=
  text.toList.flatMap String.utf8EncodeChar

/-- What the head of a byte sequence is: a scalar value or an ill-formed part, and how many bytes
it takes after the first. -/
structure Utf8Head where
  value : Option Char
  trailing : Nat
  deriving DecidableEq, Repr

def isContinuation (b : UInt8) : Bool := 0x80 ≤ b && b ≤ 0xBF

/-- The lowest and highest second byte that may follow a lead byte, and how many bytes follow the
lead; none where the byte cannot lead. These are the ranges of the Unicode Standard's table of
well-formed sequences, which leave out overlong forms, surrogates and all past U+10FFFF. -/
def secondByteRange (lead : UInt8) : Option (UInt8 × UInt8 × Nat) :=
  if 0xC2 ≤ lead && lead ≤ 0xDF then some (0x80, 0xBF, 1)
  else if lead == 0xE0 then some (0xA0, 0xBF, 2)
  else if lead == 0xED then some (0x80, 0x9F, 2)
  else if 0xE1 ≤ lead && lead ≤ 0xEF then some (0x80, 0xBF, 2)
  else if lead == 0xF0 then some (0x90, 0xBF, 3)
  else if 0xF1 ≤ lead && lead ≤ 0xF3 then some (0x80, 0xBF, 3)
  else if lead == 0xF4 then some (0x80, 0x8F, 3)
  else none

/-- The value bits of a lead byte that `following` bytes follow. -/
def leadBits (lead : UInt8) (following : Nat) : Nat :=
  lead.toNat % (64 >>> following)

/-- Reads the head of a sequence whose first byte is `lead`. An ill-formed part reaches as far as
the bytes could still begin a scalar value. -/
def utf8Head (lead : UInt8) (rest : Bytes) : Utf8Head :=
  if lead < 0x80 then ⟨some (Char.ofNat lead.toNat), 0⟩
  else match secondByteRange lead with
    | none => ⟨none, 0⟩
    | some (low, high, following) =>
      let fits := match rest with
        | [] => false
        | second :: _ => low ≤ second && second ≤ high
      if !fits then ⟨none, 0⟩
      else
        let run := ((rest.take following).takeWhile isContinuation)
        if run.length < following then ⟨none, run.length⟩
        else
          let value := run.foldl (fun n b => n * 64 + b.toNat % 64) (leadBits lead following)
          ⟨some (Char.ofNat value), following⟩

/-- The scalar values of a byte sequence, with `none` for each ill-formed part. -/
def scan : Bytes → List (Option Char)
  | [] => []
  | lead :: rest =>
    let head := utf8Head lead rest
    head.value :: scan (rest.drop head.trailing)
termination_by bytes => bytes.length
decreasing_by
  simp only [List.length_drop, List.length_cons]
  omega

theorem scan_nil : scan [] = [] := by
  rw [scan]

theorem scan_cons (lead : UInt8) (rest : Bytes) :
    scan (lead :: rest) =
      (utf8Head lead rest).value :: scan (rest.drop (utf8Head lead rest).trailing) := by
  rw [scan]

/-- The text of well-formed bytes. -/
def decode? (bytes : Bytes) : Option String :=
  ((scan bytes).mapM id).map String.ofList

/-- The text of any bytes; each ill-formed part reads as U+FFFD. -/
def decodeLossy (bytes : Bytes) : String :=
  String.ofList ((scan bytes).map (·.getD '\uFFFD'))

end Text

end SoundDevices
