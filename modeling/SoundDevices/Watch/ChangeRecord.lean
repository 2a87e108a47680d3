import SoundDevices.Text.Utf8

set_option autoImplicit false

namespace SoundDevices

/-- Bits of a record's mask: an entry was made, an entry was removed, the entry is a directory,
and records were lost. -/
def maskCreate : UInt32 := 0x100
def maskDelete : UInt32 := 0x200
def maskDirectory : UInt32 := 0x40000000
def maskOverflow : UInt32 := 0x4000

/-- One change of a watched directory. In a buffer it is a header of four words (watch, mask,
cookie, length), lowest byte first, and a name padded with NUL bytes to that length; here the name
has no padding. -/
structure ChangeRecord where
  watch : Int32
  mask : UInt32
  cookie : UInt32
  name : Bytes
  deriving DecidableEq, Repr, Inhabited

def encodeWord (word : UInt32) : Bytes :=
  [word.toUInt8, (word >>> 8).toUInt8, (word >>> 16).toUInt8, (word >>> 24).toUInt8]

def decodeWord (b0 b1 b2 b3 : UInt8) : UInt32 :=
  b0.toUInt32 ||| (b1.toUInt32 <<< 8) ||| (b2.toUInt32 <<< 16) ||| (b3.toUInt32 <<< 24)

namespace ChangeRecord

def headerSize : Nat := 16

/-- A sound device node came or went: a file, not a directory, that was created or removed under
a name of eight bytes or more that begins with `pcm`. -/
def isPcmNodeChange (record : ChangeRecord) : Bool :=
  record.mask &&& (maskCreate ||| maskDelete) != 0 && record.mask &&& maskDirectory == 0 &&
    8 ≤ record.name.length && (Text.encode "pcm").isPrefixOf record.name

/-- The bytes of a record whose name is padded to `paddedLength` bytes. -/
def encode (record : ChangeRecord) (paddedLength : UInt32) : Bytes :=
  encodeWord record.watch.toUInt32 ++ encodeWord record.mask ++ encodeWord record.cookie ++
    encodeWord paddedLength ++ record.name ++
    List.replicate (paddedLength.toNat - record.name.length) 0

end ChangeRecord

inductive RecordHead where
  | finished
  | cutOff
  | record (record : ChangeRecord) (rest : Bytes)
  deriving DecidableEq, Repr

/-- Reads the head of a buffer. A header that runs past the end, or that tells a longer name than
the buffer still has, is cut off. -/
def recordHead : Bytes → RecordHead
  | [] => .finished
  | w0 :: w1 :: w2 :: w3 :: m0 :: m1 :: m2 :: m3 :: c0 :: c1 :: c2 :: c3 ::
      l0 :: l1 :: l2 :: l3 :: rest =>
    let length := (decodeWord l0 l1 l2 l3).toNat
    if length ≤ rest.length then
      .record
        { watch := (decodeWord w0 w1 w2 w3).toInt32
          mask := decodeWord m0 m1 m2 m3
          cookie := decodeWord c0 c1 c2 c3
          name := (rest.take length).takeWhile (· != 0) }
        (rest.drop length)
    else .cutOff
  | _ => .cutOff

@[simp] theorem recordHead_nil : recordHead [] = .finished := rfl

theorem length_lt_of_recordHead {bytes rest : Bytes} {record : ChangeRecord}
    (read : recordHead bytes = .record record rest) : rest.length + 16 ≤ bytes.length := by
  unfold recordHead at read
  split at read
  · simp at read
  · simp only at read
    split at read
    · simp only [RecordHead.record.injEq] at read
      obtain ⟨-, rfl⟩ := read
      simp
    · simp at read
  · simp at read

/-- A place in a buffer of records: the bytes ahead, and whether a record was found cut off. -/
structure RecordCursor where
  rest : Bytes
  truncated : Bool := false
  deriving DecidableEq, Repr, Inhabited

namespace RecordCursor

def start (buffer : Bytes) : RecordCursor := ⟨buffer, false⟩

/-- The next record and the place after it. A cursor that found a record cut off stays there. -/
def next (cursor : RecordCursor) : Option ChangeRecord × RecordCursor :=
  if cursor.truncated then (none, cursor)
  else match recordHead cursor.rest with
    | .finished => (none, cursor)
    | .cutOff => (none, { cursor with truncated := true })
    | .record record rest => (some record, { cursor with rest := rest })

theorem next_of_truncated (cursor : RecordCursor) (stuck : cursor.truncated = true) :
    cursor.next = (none, cursor) := if_pos stuck

theorem length_next {cursor : RecordCursor} {record : ChangeRecord}
    (read : cursor.next.1 = some record) :
    cursor.next.2.rest.length + 16 ≤ cursor.rest.length := by
  unfold next at read ⊢
  split at read <;> rename_i flag <;> simp only [flag, if_true, if_false, Bool.false_eq_true]
  · simp at read
  · split at read <;> rename_i head <;> simp at read
    exact length_lt_of_recordHead head

/-- All records from a place on, and the place where they end. -/
def run (cursor : RecordCursor) : List ChangeRecord × RecordCursor :=
  match _read : cursor.next.1 with
  | none => ([], cursor.next.2)
  | some record =>
    let after := run cursor.next.2
    (record :: after.1, after.2)
termination_by cursor.rest.length
decreasing_by have := length_next _read; omega

theorem run_of_none {cursor : RecordCursor} (ended : cursor.next.1 = none) :
    cursor.run = ([], cursor.next.2) := by
  rw [run]
  split
  · rfl
  · next record read => simp [ended] at read

theorem run_of_some {cursor : RecordCursor} {record : ChangeRecord}
    (read : cursor.next.1 = some record) :
    cursor.run = (record :: cursor.next.2.run.1, cursor.next.2.run.2) := by
  rw [run]
  split
  · next ended => simp [ended] at read
  · next other same =>
    rw [read, Option.some.injEq] at same
    rw [same]

/-- Reads on until a sound device node came or went. -/
def anyPcmNodeChange (cursor : RecordCursor) : Bool × RecordCursor :=
  match _read : cursor.next.1 with
  | none => (false, cursor.next.2)
  | some record =>
    if record.isPcmNodeChange then (true, cursor.next.2)
    else anyPcmNodeChange cursor.next.2
termination_by cursor.rest.length
decreasing_by have := length_next _read; omega

theorem anyPcmNodeChange_of_none {cursor : RecordCursor} (ended : cursor.next.1 = none) :
    cursor.anyPcmNodeChange = (false, cursor.next.2) := by
  rw [anyPcmNodeChange]
  split
  · rfl
  · next record read => simp [ended] at read

theorem anyPcmNodeChange_of_some {cursor : RecordCursor} {record : ChangeRecord}
    (read : cursor.next.1 = some record) :
    cursor.anyPcmNodeChange =
      if record.isPcmNodeChange then (true, cursor.next.2)
      else cursor.next.2.anyPcmNodeChange := by
  rw [anyPcmNodeChange]
  split
  · next ended => simp [ended] at read
  · next other same =>
    rw [read, Option.some.injEq] at same
    rw [same]

def countRest (cursor : RecordCursor) : Nat := cursor.run.1.length

end RecordCursor

def records (buffer : Bytes) : List ChangeRecord := (RecordCursor.start buffer).run.1

/-- The buffer ends within a record. -/
def isTruncated (buffer : Bytes) : Bool := (RecordCursor.start buffer).run.2.truncated

def hasPcmNodeChange (buffer : Bytes) : Bool := (RecordCursor.start buffer).anyPcmNodeChange.1

end SoundDevices
