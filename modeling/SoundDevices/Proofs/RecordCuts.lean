import SoundDevices.Proofs.RecordReads

set_option autoImplicit false

namespace SoundDevices

/-- A change record and the length to which its name is padded when it is written. -/
structure WrittenRecord where
  record : ChangeRecord
  paddedLength : UInt32
  clean : record.name.contains 0 = false
  fits : record.name.length ≤ paddedLength.toNat

namespace WrittenRecord

def encode (written : WrittenRecord) : Bytes := written.record.encode written.paddedLength

def size (written : WrittenRecord) : Nat :=
  ChangeRecord.headerSize + written.paddedLength.toNat

theorem length_encode (written : WrittenRecord) : written.encode.length = written.size := by
  have padded := written.record.length_paddedName written.paddedLength written.fits
  rw [encode, ChangeRecord.encode_eq, List.length_append, ChangeRecord.length_header, padded, size]

theorem headerSize_le_size (written : WrittenRecord) : ChangeRecord.headerSize ≤ written.size :=
  Nat.le_add_right _ _

/-- The place behind the first `count` of some records. -/
def boundary (written : List WrittenRecord) (count : Nat) : Nat :=
  ((written.take count).flatMap encode).length

/-- The records that lie wholly within the first bytes, as many as `cut` says. -/
def before (cut : Nat) (written : List WrittenRecord) : List WrittenRecord :=
  (written.zipIdx.filter fun numbered => boundary written (numbered.2 + 1) ≤ cut).map (·.1)

theorem boundary_zero (written : List WrittenRecord) : boundary written 0 = 0 := rfl

theorem boundary_cons_succ (first : WrittenRecord) (rest : List WrittenRecord) (count : Nat) :
    boundary (first :: rest) (count + 1) = first.size + boundary rest count := by
  rw [boundary, List.take_succ_cons, List.flatMap_cons, List.length_append, length_encode, boundary]

/-- If the first record lies before the cut, the others see a cut that is nearer by its size. -/
theorem before_cons (cut : Nat) (first : WrittenRecord) (rest : List WrittenRecord) :
    before cut (first :: rest) =
      if first.size ≤ cut then first :: before (cut - first.size) rest else [] := by
  have behindFirst : boundary (first :: rest) (0 + 1) = first.size :=
    boundary_cons_succ first rest 0
  by_cases whole : first.size ≤ cut
  · have nearer (place : Nat) : boundary (first :: rest) (place + 1 + 1) ≤ cut ↔
        boundary rest (place + 1) ≤ cut - first.size := by
      rw [boundary_cons_succ]
      omega
    simp only [before, List.zipIdx_cons', List.filter_cons, behindFirst, whole, List.filter_map,
      Function.comp_def, Prod.map, id_eq, nearer, decide_true, if_true, List.map_cons,
      List.map_map]
  · have beyond (place : Nat) : ¬boundary (first :: rest) (place + 1 + 1) ≤ cut := by
      rw [boundary_cons_succ]
      omega
    have nothing : rest.zipIdx.filter (fun _ => false) = [] :=
      List.filter_eq_nil_iff.mpr fun _ _ => Bool.false_ne_true
    simp only [before, List.zipIdx_cons', List.filter_cons, behindFirst, whole, List.filter_map,
      Function.comp_def, Prod.map, id_eq, beyond, decide_false, Bool.false_eq_true, if_false,
      nothing, List.map_nil]

end WrittenRecord

namespace RecordCursor

theorem run_start_nil : (start []).run = ([], start []) :=
  run_of_none rfl

theorem run_start_of_cutOff {buffer : Bytes} (cut : recordHead buffer = .cutOff) :
    (start buffer).run = ([], ⟨buffer, true⟩) := by
  have ended : (start buffer).next = (none, ⟨buffer, true⟩) := by
    simp only [next, start, cut, Bool.false_eq_true, ↓reduceIte]
  rw [run_of_none (by rw [ended]), ended]

theorem run_start_of_record {buffer rest : Bytes} {record : ChangeRecord}
    (head : recordHead buffer = .record record rest) :
    (start buffer).run = (record :: (start rest).run.1, (start rest).run.2) := by
  have read : (start buffer).next = (some record, start rest) := by
    simp only [next, start, head, Bool.false_eq_true, ↓reduceIte]
  rw [run_of_some (by rw [read]), read]

end RecordCursor

/-- A buffer that has some bytes, but too few for a header, is cut off. -/
theorem recordHead_of_length_lt {buffer : Bytes} (something : 0 < buffer.length)
    (short : buffer.length < ChangeRecord.headerSize) : recordHead buffer = .cutOff := by
  unfold recordHead
  split
  · exact absurd something (Nat.lt_irrefl 0)
  · simp only [List.length_cons, ChangeRecord.headerSize] at short
    omega
  · rfl

namespace WrittenRecord

/-- A cut within a written record, wherever it lies. -/
theorem recordHead_take_encode (written : WrittenRecord) {cut : Nat} (something : 0 < cut)
    (inside : cut < written.size) : recordHead (written.encode.take cut) = .cutOff := by
  by_cases short : cut < ChangeRecord.headerSize
  · have length : (written.encode.take cut).length = cut := by
      rw [List.length_take, length_encode]
      omega
    exact recordHead_of_length_lt (by omega) (by omega)
  · -- the header is whole, and tells of more bytes than are left
    obtain ⟨more, rfl⟩ := Nat.exists_eq_add_of_le (Nat.le_of_not_lt short)
    have missing : more < written.paddedLength.toNat := by
      rw [size] at inside
      omega
    have kept := List.length_take_le more (written.record.paddedName written.paddedLength)
    rw [encode, ChangeRecord.encode_eq, ← written.record.length_header written.paddedLength,
      List.take_length_add_append, recordHead_header, if_neg (by omega)]

theorem run_encode_append (written : WrittenRecord) (rest : Bytes) :
    (RecordCursor.start (written.encode ++ rest)).run =
      (written.record :: (RecordCursor.start rest).run.1, (RecordCursor.start rest).run.2) :=
  RecordCursor.run_start_of_record
    (recordHead_encode written.record written.paddedLength rest written.clean written.fits)

/-- A cut lies at the boundary behind the first record, or where a boundary of the others is. -/
theorem boundary_cons_ne_iff (first : WrittenRecord) (rest : List WrittenRecord) (more : Nat) :
    (∀ count ≤ (first :: rest).length, boundary (first :: rest) count ≠ first.size + more) ↔
      ∀ count ≤ rest.length, boundary rest count ≠ more := by
  constructor
  · intro apart count bound same
    refine apart (count + 1) (Nat.succ_le_succ bound) ?_
    rw [boundary_cons_succ, same]
  · intro apart count bound same
    cases count with
    | zero =>
      have header : 0 < first.size := Nat.lt_of_lt_of_le (by decide) first.headerSize_le_size
      rw [boundary_zero] at same
      omega
    | succ count =>
      rw [boundary_cons_succ] at same
      exact apart count (Nat.le_of_succ_le_succ bound) (Nat.add_left_cancel same)

/-- The cursor on a buffer that is cut off, at the end of its run. -/
theorem run_take_encode (written : List WrittenRecord) (cut : Nat)
    (inside : cut ≤ (written.flatMap encode).length) :
    (RecordCursor.start ((written.flatMap encode).take cut)).run.1 =
        (before cut written).map (·.record) ∧
      ((RecordCursor.start ((written.flatMap encode).take cut)).run.2.truncated = true ↔
        ∀ count ≤ written.length, boundary written count ≠ cut) := by
  induction written generalizing cut with
  | nil =>
    obtain rfl := Nat.le_zero.mp inside
    rw [List.flatMap_nil, List.take_nil, RecordCursor.run_start_nil]
    refine ⟨rfl, iff_of_false Bool.false_ne_true fun apart => ?_⟩
    exact apart 0 (Nat.le_refl 0) rfl
  | cons first rest ih =>
    rw [List.flatMap_cons, before_cons]
    by_cases whole : first.size ≤ cut
    · obtain ⟨more, rfl⟩ := Nat.exists_eq_add_of_le whole
      rw [List.flatMap_cons, List.length_append, length_encode] at inside
      obtain ⟨read, truncated⟩ := ih more (by omega)
      rw [← length_encode, List.take_length_add_append, run_encode_append, length_encode,
        if_pos whole, Nat.add_sub_cancel_left, boundary_cons_ne_iff]
      exact ⟨congrArg (first.record :: ·) read, truncated⟩
    · have short : cut ≤ first.encode.length := by
        rw [length_encode]
        omega
      rw [List.take_append_of_le_length short, if_neg whole]
      -- a cut within the first record leaves a head that does not read
      by_cases something : 0 < cut
      · rw [RecordCursor.run_start_of_cutOff (first.recordHead_take_encode something (by omega))]
        refine ⟨rfl, iff_of_true rfl fun count bound same => ?_⟩
        cases count with
        | zero => exact absurd same (Nat.ne_of_lt something)
        | succ count =>
          rw [boundary_cons_succ] at same
          omega
      · obtain rfl := Nat.eq_zero_of_not_pos something
        rw [List.take_zero, RecordCursor.run_start_nil]
        refine ⟨rfl, iff_of_false Bool.false_ne_true fun apart => ?_⟩
        exact apart 0 (Nat.zero_le _) rfl

/-- Nothing of a buffer lies behind the last record. -/
theorem boundary_length (written : List WrittenRecord) :
    boundary written written.length = (written.flatMap encode).length := by
  rw [boundary, List.take_length]

theorem before_length (written : List WrittenRecord) :
    before (written.flatMap encode).length written = written := by
  induction written with
  | nil => rfl
  | cons first rest ih =>
    rw [before_cons, List.flatMap_cons, List.length_append, length_encode,
      if_pos (Nat.le_add_right _ _), Nat.add_sub_cancel_left, ih]

/-- Reading back what was written, up to any place. The records that are found are those that lie
wholly before the place, in order and unchanged, and the buffer is truncated unless the place is the
boundary of some records. At the end of the buffer all records are found. -/
theorem records_take_encode (written : List WrittenRecord) (cut : Nat)
    (inside : cut ≤ (written.flatMap encode).length) :
    records ((written.flatMap encode).take cut) = (before cut written).map (·.record) ∧
    (isTruncated ((written.flatMap encode).take cut) = true ↔
      ∀ count ≤ written.length, boundary written count ≠ cut) ∧
    records (written.flatMap encode) = written.map (·.record) ∧
    isTruncated (written.flatMap encode) = false := by
  obtain ⟨read, truncated⟩ := run_take_encode written cut inside
  obtain ⟨readAll, truncatedAll⟩ := run_take_encode written _ (Nat.le_refl _)
  rw [List.take_length] at readAll truncatedAll
  refine ⟨read, truncated, ?_, ?_⟩
  · rw [records, readAll, before_length]
  · rw [isTruncated, Bool.eq_false_iff, Ne, truncatedAll]
    intro apart
    exact apart written.length (Nat.le_refl _) (boundary_length written)

def cameAndWent : List WrittenRecord :=
  [⟨⟨1, maskCreate, 0, Text.encode "pcmC0D0p"⟩, 16, by decide +kernel, by decide +kernel⟩,
   ⟨⟨1, maskDelete, 0, Text.encode "pcmC0D0p"⟩, 16, by decide +kernel, by decide +kernel⟩]

/-- The first record survives a cut in the padding of the second. -/
theorem records_take_encode_in_padding :
    60 ≤ (cameAndWent.flatMap encode).length ∧
      records ((cameAndWent.flatMap encode).take 60) =
        [⟨1, maskCreate, 0, Text.encode "pcmC0D0p"⟩] ∧
      isTruncated ((cameAndWent.flatMap encode).take 60) = true := by
  have inside : 60 ≤ (cameAndWent.flatMap encode).length := by decide +kernel
  obtain ⟨read, truncated, -⟩ := records_take_encode cameAndWent 60 inside
  refine ⟨inside, read.trans (by decide +kernel), truncated.mpr ?_⟩
  decide +kernel

end WrittenRecord

end SoundDevices
