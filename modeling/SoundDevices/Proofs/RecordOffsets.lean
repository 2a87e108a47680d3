import SoundDevices.Proofs.RecordGrammar

set_option autoImplicit false

namespace SoundDevices

/-- The bytes from one offset up to another; none unless both lie within the bytes, in order. -/
def slice? (bytes : Bytes) (first past : UInt64) : Option Bytes :=
  if first ≤ past ∧ past.toNat ≤ bytes.length then
    some ((bytes.take past.toNat).drop first.toNat)
  else none

def sliceWord? (bytes : Bytes) (first past : UInt64) : Option UInt32 :=
  match slice? bytes first past with
  | some [b0, b1, b2, b3] => some (decodeWord b0 b1 b2 b3)
  | _ => none

def sum? (first second : UInt64) : Option UInt64 :=
  if first.toNat + second.toNat < UInt64.size then some (first + second) else none

theorem slice?_eq_some {bytes : Bytes} {first past : UInt64} (ordered : first.toNat ≤ past.toNat)
    (inside : past.toNat ≤ bytes.length) :
    slice? bytes first past = some ((bytes.drop first.toNat).take (past.toNat - first.toNat)) := by
  rw [slice?, if_pos ⟨UInt64.le_iff_toNat_le.mpr ordered, inside⟩, List.drop_take]

theorem exists_word_drop {bytes : Bytes} {place : Nat} (inside : place + 4 ≤ bytes.length) :
    ∃ b0 b1 b2 b3 rest, bytes.drop place = b0 :: b1 :: b2 :: b3 :: rest := by
  apply exists_word
  rw [List.length_drop]
  omega

theorem exists_wordAt? {bytes : Bytes} {place : Nat} (inside : place + 4 ≤ bytes.length) :
    ∃ word, wordAt? bytes place = some word := by
  obtain ⟨b0, b1, b2, b3, rest, ahead⟩ := exists_word_drop inside
  exact ⟨decodeWord b0 b1 b2 b3, wordAt?_of_drop ahead⟩

theorem sliceWord?_eq {bytes : Bytes} {first past : UInt64}
    (four : past.toNat = first.toNat + 4) (inside : past.toNat ≤ bytes.length) :
    sliceWord? bytes first past = wordAt? bytes first.toNat := by
  rw [four] at inside
  obtain ⟨b0, b1, b2, b3, rest, ahead⟩ := exists_word_drop inside
  rw [sliceWord?, slice?_eq_some (by omega) (by omega), wordAt?_of_drop ahead, ahead, four,
    Nat.add_sub_cancel_left]
  rfl

/-- The four slices of a header are its words. -/
theorem sliceWords_eq {bytes : Bytes} (header : ChangeRecord.headerSize ≤ bytes.length) :
    sliceWord? bytes 0 4 = wordAt? bytes 0 ∧ sliceWord? bytes 4 8 = wordAt? bytes 4 ∧
      sliceWord? bytes 8 12 = wordAt? bytes 8 ∧ sliceWord? bytes 12 16 = wordAt? bytes 12 := by
  have word (first past : UInt64) (four : past.toNat = first.toNat + 4)
      (inside : past.toNat ≤ ChangeRecord.headerSize) :
      sliceWord? bytes first past = wordAt? bytes first.toNat :=
    sliceWord?_eq four (Nat.le_trans inside header)
  exact ⟨word 0 4 rfl (by decide), word 4 8 rfl (by decide), word 8 12 rfl (by decide),
    word 12 16 rfl (by decide)⟩

theorem exists_sum? {first second : UInt64} (fits : first.toNat + second.toNat < UInt64.size) :
    ∃ sum, sum? first second = some sum ∧ sum.toNat = first.toNat + second.toNat := by
  refine ⟨first + second, if_pos fits, ?_⟩
  rw [UInt64.toNat_add, Nat.mod_eq_of_lt fits]

/-- The end of a record does not overflow, whatever length its header tells. -/
theorem exists_sum?_headerSize (length : UInt32) :
    ∃ past, sum? 16 length.toUInt64 = some past ∧
      past.toNat = ChangeRecord.headerSize + length.toNat := by
  have bound := length.toNat_lt
  have wide : length.toUInt64.toNat = length.toNat := UInt32.toNat_toUInt64 length
  have header : (16 : UInt64).toNat = ChangeRecord.headerSize := rfl
  have fits : (16 : UInt64).toNat + length.toUInt64.toNat < UInt64.size := by
    rw [wide, header, ChangeRecord.headerSize, UInt64.size]
    omega
  obtain ⟨past, sum, value⟩ := exists_sum? fits
  exact ⟨past, sum, by rw [value, wide, header]⟩

/-- The record at the head of some bytes, and the offset behind it, or no record if there is none
or it is cut off. There is no result if a slice does not lie within what it is taken of. -/
def recordAhead? (ahead : Bytes) : Option (Option (ChangeRecord × UInt64)) :=
  if ahead.length < ChangeRecord.headerSize then some none
  else do
    let watch ← sliceWord? ahead 0 4
    let mask ← sliceWord? ahead 4 8
    let cookie ← sliceWord? ahead 8 12
    let length ← sliceWord? ahead 12 16
    match (sum? 16 length.toUInt64).filter fun past => past.toNat ≤ ahead.length with
    | none => return none
    | some past =>
      let padded ← slice? ahead 16 past
      let name ← slice? padded 0 (.ofNat (padded.findIdx (· == 0)))
      return some ({ watch := watch.toInt32, mask, cookie, name }, past)

theorem recordAhead?_of_isRest {rest : Bytes} (ends : IsRest rest) :
    recordAhead? rest = some none := by
  have positive : 0 < ChangeRecord.headerSize := by decide
  unfold recordAhead?
  rcases ends with rfl | short | ⟨length, told, missing⟩
  · exact if_pos positive
  · exact if_pos short
  by_cases header : rest.length < ChangeRecord.headerSize
  · exact if_pos header
  · have long : ChangeRecord.headerSize ≤ rest.length := Nat.le_of_not_lt header
    have sixteen : 16 ≤ rest.length := long
    obtain ⟨watch, watchAt⟩ := exists_wordAt? (by omega : 0 + 4 ≤ rest.length)
    obtain ⟨mask, maskAt⟩ := exists_wordAt? (by omega : 4 + 4 ≤ rest.length)
    obtain ⟨cookie, cookieAt⟩ := exists_wordAt? (by omega : 8 + 4 ≤ rest.length)
    obtain ⟨watchRead, maskRead, cookieRead, lengthRead⟩ := sliceWords_eq long
    obtain ⟨past, sum, value⟩ := exists_sum?_headerSize length
    have beyond : ¬past.toNat ≤ rest.length := by omega
    rw [if_neg header, watchRead, maskRead, cookieRead, lengthRead, watchAt, maskAt, cookieAt, told]
    simp only [Option.bind_eq_bind, Option.bind_some, sum, Option.filter_some, beyond, decide_false,
      Bool.false_eq_true, if_false]
    rfl

theorem takeWhile_eq_take_findIdx (field : Bytes) :
    field.takeWhile (· != 0) = field.take (field.findIdx (· == 0)) := by
  rw [List.takeWhile_eq_take_findIdx_not]
  congr 2
  funext byte
  exact Bool.not_not (byte == 0)

/-- The slice of the field up to its first NUL is the name. -/
theorem RecordBlock.slice?_name (block : RecordBlock) :
    slice? block.field 0 (.ofNat (block.field.findIdx (· == 0))) = some block.record.name := by
  have fits : block.field.length < UInt64.size := Nat.lt_trans block.length_lt (by decide)
  have bound : block.field.findIdx (· == 0) ≤ block.field.length := List.findIdx_le_length
  have end_eq : (UInt64.ofNat (block.field.findIdx (· == 0))).toNat =
      block.field.findIdx (· == 0) := UInt64.toNat_ofNat_of_lt' (by omega)
  have zero : (0 : UInt64).toNat = 0 := rfl
  rw [slice?_eq_some (by omega) (by omega), end_eq, zero, List.drop_zero, Nat.sub_zero,
    ← takeWhile_eq_take_findIdx]
  rfl

theorem recordAhead?_encode_append (block : RecordBlock) (more : Bytes) :
    ∃ past, recordAhead? (block.encode ++ more) = some (some (block.record, past)) ∧
      past.toNat = block.encode.length := by
  have size : (block.encode ++ more).length =
      ChangeRecord.headerSize + block.field.length + more.length := by
    rw [List.length_append, block.length_encode]
  have length : (UInt32.ofNat block.field.length).toNat = block.field.length :=
    UInt32.toNat_ofNat_of_lt' block.length_lt
  have split : block.encode ++ more =
      block.record.header (.ofNat block.field.length) ++ (block.field ++ more) := by
    rw [RecordBlock.encode, List.append_assoc]
  have long : ChangeRecord.headerSize ≤ (block.encode ++ more).length := by omega
  obtain ⟨watchAt, maskAt, cookieAt, lengthAt⟩ :=
    wordAt?_header block.record (.ofNat block.field.length) (block.field ++ more)
  rw [← split] at watchAt maskAt cookieAt lengthAt
  obtain ⟨watchRead, maskRead, cookieRead, lengthRead⟩ := sliceWords_eq long
  obtain ⟨past, sum, value⟩ := exists_sum?_headerSize (.ofNat block.field.length)
  rw [length] at value
  have inside : past.toNat ≤ (block.encode ++ more).length := by omega
  have header : (16 : UInt64).toNat = ChangeRecord.headerSize := rfl
  have padded : slice? (block.encode ++ more) 16 past = some block.field := by
    rw [slice?_eq_some (by omega) inside, header, value, Nat.add_sub_cancel_left, split,
      List.drop_left' (ChangeRecord.length_header _ _), List.take_left' rfl]
  refine ⟨past, ?_, ?_⟩
  · rw [recordAhead?, if_neg (by omega), watchRead, maskRead, cookieRead, lengthRead, watchAt,
      maskAt, cookieAt, lengthAt]
    simp only [Option.bind_eq_bind, Option.bind_some, sum, Option.filter_some, inside, decide_true,
      if_true, padded, block.slice?_name, Int32.toInt32_toUInt32]
    rfl
  · rw [value, block.length_encode]

/-- A place in a buffer of records, as an offset, and whether a record was found cut off. -/
structure OffsetCursor where
  buffer : Bytes
  offset : UInt64
  truncated : Bool
  deriving DecidableEq, Repr

namespace OffsetCursor

/-- The next record and the place after it. There is no result if a slice does not lie within what
it is taken of, or if the offset behind the record does not fit. -/
def next? (cursor : OffsetCursor) : Option (Option ChangeRecord × OffsetCursor) := do
  let ahead ← slice? cursor.buffer cursor.offset (.ofNat cursor.buffer.length)
  if ahead.isEmpty || cursor.truncated then
    return (none, cursor)
  else
    match ← recordAhead? ahead with
    | none => return (none, { cursor with truncated := true })
    | some (record, past) =>
      let offset ← sum? cursor.offset past
      return (some record, { cursor with offset })

/-- What so many calls answer, one after the other, and the place that they reach. -/
def nextTimes? : Nat → OffsetCursor → Option (List (Option ChangeRecord) × OffsetCursor)
  | 0, cursor => some ([], cursor)
  | count + 1, cursor => do
    let (record, after) ← cursor.next?
    let (records, last) ← nextTimes? count after
    return (record :: records, last)

def behind (read ahead : Bytes) : OffsetCursor := ⟨read ++ ahead, .ofNat read.length, false⟩

def start (buffer : Bytes) : OffsetCursor := behind [] buffer

variable {read ahead rest : Bytes}

theorem toNat_offset_behind (short : (read ++ ahead).length < UInt64.size) :
    (behind read ahead).offset.toNat = read.length := by
  rw [List.length_append] at short
  exact UInt64.toNat_ofNat_of_lt' (by omega)

/-- The first slice is what has not been read. -/
theorem slice?_behind (short : (read ++ ahead).length < UInt64.size) :
    slice? (behind read ahead).buffer (behind read ahead).offset
      (.ofNat (behind read ahead).buffer.length) = some ahead := by
  have place := toNat_offset_behind short
  have size : (UInt64.ofNat (read ++ ahead).length).toNat = (read ++ ahead).length :=
    UInt64.toNat_ofNat_of_lt' (by omega)
  have length : (read ++ ahead).length = read.length + ahead.length := List.length_append
  show slice? (read ++ ahead) _ (.ofNat (read ++ ahead).length) = _
  rw [slice?_eq_some (by omega) (by omega), place, size, List.drop_left' rfl, length,
    Nat.add_sub_cancel_left, List.take_length]

theorem next?_behind_nil (short : (read ++ []).length < UInt64.size) :
    (behind read []).next? = some (none, behind read []) := by
  rw [next?, slice?_behind short]
  rfl

/-- A cursor that found a record cut off stays there. -/
theorem next?_of_truncated (short : (read ++ ahead).length < UInt64.size) :
    ({ behind read ahead with truncated := true } : OffsetCursor).next? =
      some (none, { behind read ahead with truncated := true }) := by
  have slice := slice?_behind short
  simp only [next?, slice, Option.bind_eq_bind, Option.bind_some, Bool.or_true, if_true]
  rfl

/-- As long as there are bytes left, the next record is the one at their head. -/
theorem next?_behind (left : ahead ≠ []) (short : (read ++ ahead).length < UInt64.size) :
    (behind read ahead).next? =
      (recordAhead? ahead).bind fun found =>
        match found with
        | none => some (none, { behind read ahead with truncated := true })
        | some (record, past) =>
          (sum? (behind read ahead).offset past).bind fun offset =>
            some (some record, { behind read ahead with offset }) := by
  have notEmpty : ahead.isEmpty = false := List.isEmpty_eq_false_iff.mpr left
  have going : (behind read ahead).truncated = false := rfl
  rw [next?, slice?_behind short, Option.bind_eq_bind, Option.bind_some, notEmpty, going,
    Bool.or_false, if_neg Bool.false_ne_true]
  rcases recordAhead? ahead with _ | _ | ⟨record, past⟩ <;> rfl

theorem next?_behind_rest (ends : IsRest rest) (left : rest ≠ [])
    (short : (read ++ rest).length < UInt64.size) :
    (behind read rest).next? = some (none, { behind read rest with truncated := true }) := by
  rw [next?_behind left short, recordAhead?_of_isRest ends]
  rfl

theorem next?_behind_encode (block : RecordBlock)
    (short : (read ++ (block.encode ++ ahead)).length < UInt64.size) :
    (behind read (block.encode ++ ahead)).next? =
      some (some block.record, behind (read ++ block.encode) ahead) := by
  have size : (read ++ (block.encode ++ ahead)).length =
      read.length + (block.encode ++ ahead).length := List.length_append
  have sizeAhead : (block.encode ++ ahead).length = block.encode.length + ahead.length :=
    List.length_append
  have header := block.isBlock_encode.headerSize_le_length
  have positive : 0 < ChangeRecord.headerSize := by decide
  have left : block.encode ++ ahead ≠ [] := by
    rw [Ne, ← List.length_eq_zero_iff]
    omega
  obtain ⟨past, record, value⟩ := recordAhead?_encode_append block ahead
  have place := toNat_offset_behind short
  obtain ⟨offset, sum, moved⟩ := @exists_sum? (behind read (block.encode ++ ahead)).offset past
    (by rw [place, value]; omega)
  have reached : offset = .ofNat (read ++ block.encode).length := by
    rw [← UInt64.toNat_inj, moved, place, value, List.length_append]
    exact (UInt64.toNat_ofNat_of_lt' (by omega)).symm
  have rejoined : (behind (read ++ block.encode) ahead).buffer =
      (behind read (block.encode ++ ahead)).buffer := List.append_assoc ..
  rw [next?_behind left short, record, Option.bind_some]
  dsimp only
  rw [sum, reached, Option.bind_some, ← rejoined]
  rfl

theorem nextTimes?_succ {cursor after last : OffsetCursor} {record : Option ChangeRecord}
    {records : List (Option ChangeRecord)} {count : Nat}
    (first : cursor.next? = some (record, after))
    (others : after.nextTimes? count = some (records, last)) :
    cursor.nextTimes? (count + 1) = some (record :: records, last) := by
  rw [nextTimes?, first, Option.bind_eq_bind, Option.bind_some]
  dsimp only
  rw [others]
  rfl

theorem nextTimes?_of_ended {cursor : OffsetCursor} (ended : cursor.next? = some (none, cursor))
    (count : Nat) : cursor.nextTimes? count = some (List.replicate count none, cursor) := by
  induction count with
  | zero => rfl
  | succ count ih => exact nextTimes?_succ ended ih

/-- So many calls read as many blocks, as long as there are some, and then nothing any more. -/
theorem nextTimes?_behind (count : Nat) {blocks : List Bytes} (split : Splits ahead blocks rest)
    (short : (read ++ ahead).length < UInt64.size) :
    (behind read ahead).nextTimes? count =
      some (((records ahead).take count).map some ++ List.replicate (count - blocks.length) none,
        { behind (read ++ (blocks.take count).flatten) ((blocks.drop count).flatten ++ rest) with
          truncated := decide (blocks.length < count ∧ rest ≠ []) }) := by
  induction count generalizing read ahead blocks with
  | zero =>
    rw [split.parts]
    simp [nextTimes?, behind]
  | succ count ih =>
    cases blocks with
    | nil =>
      have parts : ahead = rest := split.parts
      subst parts
      obtain ⟨told, -⟩ := split.reads
      rw [List.forall₂_nil_left_iff.mp told]
      by_cases left : ahead = []
      · subst left
        rw [nextTimes?_of_ended (next?_behind_nil short)]
        simp [behind]
      · have stays := nextTimes?_of_ended (next?_of_truncated short) count
        rw [nextTimes?_succ (next?_behind_rest split.ends left short) stays]
        simp [behind, left, List.replicate_succ]
    | cons bytes blocks =>
      -- One call moves the first block from what is ahead to what has been read.
      obtain ⟨whole, parts, later⟩ := split.tail
      obtain ⟨block, rfl⟩ := whole.exists_encode_eq
      subst parts
      have step := next?_behind_encode block short
      rw [← List.append_assoc] at short
      rw [nextTimes?_succ step (ih later short), block.records_encode_append]
      simp [List.append_assoc]

end OffsetCursor

/-- What is read of a buffer of at most `2 ^ 63 - 1` bytes. It splits into blocks and a rest in one
way only. Reading ends after as many records as there are blocks, with the words of each and the
name in its field, and the buffer is truncated exactly if there is a rest. At offsets of 64 bits no
slice fails and no sum overflows, however often the cursor is asked: after so many calls the offset
is the length of as many blocks. The end of a record fits whatever length its header tells. -/
theorem reading_follows_the_grammar (buffer : Bytes) (short : buffer.length ≤ 0x7fffffffffffffff) :
    (∃! split : List Bytes × Bytes, Splits buffer split.1 split.2) ∧
    (∀ blocks rest, Splits buffer blocks rest →
      List.Forall₂ Tells blocks (records buffer) ∧
      (records buffer).length = blocks.length ∧
      blocks.length ≤ buffer.length / ChangeRecord.headerSize ∧
      (isTruncated buffer = true ↔ rest ≠ []) ∧
      ∀ calls, ∃ last,
        (OffsetCursor.start buffer).nextTimes? calls =
          some (((records buffer).take calls).map some ++
            List.replicate (calls - blocks.length) none, last) ∧
        last.offset.toNat = (blocks.take calls).flatten.length ∧
        last.offset.toNat ≤ buffer.length ∧
        (last.truncated = true ↔ blocks.length < calls ∧ rest ≠ [])) ∧
    ∀ length : UInt32, ∃ past, sum? 16 length.toUInt64 = some past ∧
      past.toNat = ChangeRecord.headerSize + length.toNat := by
  have bounded : ([] ++ buffer).length < UInt64.size := by
    rw [List.nil_append, UInt64.size]
    omega
  refine ⟨?_, fun blocks rest split => ?_, exists_sum?_headerSize⟩
  · obtain ⟨blocks, rest, split⟩ := exists_splits buffer
    refine ⟨(blocks, rest), split, ?_⟩
    rintro ⟨others, other⟩ another
    obtain ⟨rfl, rfl⟩ := split.unique another
    rfl
  obtain ⟨told, truncated⟩ := split.reads
  have few : blocks.length ≤ buffer.length / ChangeRecord.headerSize :=
    (Nat.le_div_iff_mul_le (by decide)).mpr split.length_mul_le
  refine ⟨told, told.length_eq.symm, few, truncated, fun calls => ?_⟩
  refine ⟨_, OffsetCursor.nextTimes?_behind calls split bounded, ?_⟩
  have parts : buffer = (blocks.take calls).flatten ++ ((blocks.drop calls).flatten ++ rest) := by
    rw [← List.append_assoc, ← List.flatten_append, List.take_append_drop]
    exact split.parts
  have size := congrArg List.length parts
  rw [List.length_append] at size
  have place : (OffsetCursor.behind (blocks.take calls).flatten
      ((blocks.drop calls).flatten ++ rest)).offset.toNat = (blocks.take calls).flatten.length :=
    OffsetCursor.toNat_offset_behind (by rw [← parts]; exact bounded)
  refine ⟨place, ?_, decide_eq_true_iff⟩
  have within : (blocks.take calls).flatten.length ≤ buffer.length := by omega
  exact Nat.le_trans (Nat.le_of_eq place) within

/-- A whole record and the first bytes of another. -/
theorem reading_follows_the_grammar_at_cut :
    (RecordBlock.nodeCame.encode ++ [1, 2]).length ≤ 0x7fffffffffffffff ∧
      Splits (RecordBlock.nodeCame.encode ++ [1, 2]) [RecordBlock.nodeCame.encode] [1, 2] ∧
      List.Forall₂ Tells [RecordBlock.nodeCame.encode]
        (records (RecordBlock.nodeCame.encode ++ [1, 2])) ∧
      isTruncated (RecordBlock.nodeCame.encode ++ [1, 2]) = true := by
  have short : (RecordBlock.nodeCame.encode ++ [1, 2]).length ≤ 0x7fffffffffffffff := by
    rw [List.length_append, RecordBlock.length_encode]
    decide
  have rest : Splits [1, 2] [] [1, 2] := ⟨rfl, nofun, Or.inr (Or.inl (by decide))⟩
  have split := rest.cons RecordBlock.nodeCame.isBlock_encode
  obtain ⟨-, reads, -⟩ := reading_follows_the_grammar _ short
  obtain ⟨told, -, -, truncated, -⟩ := reads _ _ split
  exact ⟨short, split, told, truncated.mpr (List.cons_ne_nil _ _)⟩

end SoundDevices
