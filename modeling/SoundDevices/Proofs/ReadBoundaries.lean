import Mathlib.Logic.Basic
import SoundDevices.Proofs.RecordCuts

set_option autoImplicit false

namespace SoundDevices

/-- What makes a record relevant, bit by bit. -/
theorem ChangeRecord.isPcmNodeChange_iff (record : ChangeRecord) :
    record.isPcmNodeChange = true ↔
      (record.mask &&& maskCreate ≠ 0 ∨ record.mask &&& maskDelete ≠ 0) ∧
        record.mask &&& maskDirectory = 0 ∧ 8 ≤ record.name.length ∧
          Text.encode "pcm" <+: record.name := by
  have either : record.mask &&& (maskCreate ||| maskDelete) =
      (record.mask &&& maskCreate) ||| (record.mask &&& maskDelete) := by
    apply UInt32.toNat_inj.mp
    simp only [UInt32.toNat_and, UInt32.toNat_or, Nat.and_or_distrib_left]
  simp only [isPcmNodeChange, either, Bool.and_eq_true, bne_iff_ne, Ne, UInt32.or_eq_zero_iff,
    not_and_or, beq_iff_eq, decide_eq_true_eq, List.isPrefixOf_iff_prefix, and_assoc]

/-- A whole record as it stands in a buffer: three words, the number of bytes that follow, and these
bytes. What they hold behind the first NUL is not looked at. -/
structure RecordBlock where
  watch : Int32
  mask : UInt32
  cookie : UInt32
  field : Bytes
  length_lt : field.length < UInt32.size

namespace RecordBlock

/-- The name in the field ends at the first NUL. -/
def record (block : RecordBlock) : ChangeRecord where
  watch := block.watch
  mask := block.mask
  cookie := block.cookie
  name := block.field.takeWhile (· != 0)

def encode (block : RecordBlock) : Bytes :=
  block.record.header (UInt32.ofNat block.field.length) ++ block.field

/-- The record tells that an entry was made or removed that is no directory, under a name of eight
bytes or more that begins with `pcm`. -/
def IsNodeChange (block : RecordBlock) : Prop :=
  (block.mask &&& 0x100 ≠ 0 ∨ block.mask &&& 0x200 ≠ 0) ∧
    block.mask &&& 0x40000000 = 0 ∧
    8 ≤ (block.field.takeWhile (· != 0)).length ∧
    Text.encode "pcm" <+: block.field.takeWhile (· != 0)

instance (block : RecordBlock) : Decidable block.IsNodeChange :=
  inferInstanceAs (Decidable (_ ∧ _ ∧ _ ∧ _))

theorem isPcmNodeChange_record_iff (block : RecordBlock) :
    block.record.isPcmNodeChange = true ↔ block.IsNodeChange :=
  block.record.isPcmNodeChange_iff

theorem recordHead_encode_append (block : RecordBlock) (rest : Bytes) :
    recordHead (block.encode ++ rest) = .record block.record rest := by
  have length : (UInt32.ofNat block.field.length).toNat = block.field.length :=
    UInt32.toNat_ofNat_of_lt' block.length_lt
  rw [encode, List.append_assoc, recordHead_header, length,
    if_pos (by rw [List.length_append]; omega), List.take_left' rfl, List.drop_left' rfl]
  rfl

end RecordBlock

/-- What is read at the head of a buffer is a whole record. -/
theorem exists_block_of_recordHead {buffer rest : Bytes} {record : ChangeRecord}
    (head : recordHead buffer = .record record rest) :
    ∃ block : RecordBlock, block.record = record ∧ buffer = block.encode ++ rest := by
  unfold recordHead at head
  split at head
  · cases head
  · next w0 w1 w2 w3 m0 m1 m2 m3 c0 c1 c2 c3 l0 l1 l2 l3 body =>
    dsimp only at head
    split at head
    · next whole =>
      obtain ⟨rfl, rfl⟩ := RecordHead.record.inj head
      have length : (body.take (decodeWord l0 l1 l2 l3).toNat).length =
          (decodeWord l0 l1 l2 l3).toNat := List.length_take_of_le whole
      refine ⟨⟨(decodeWord w0 w1 w2 w3).toInt32, decodeWord m0 m1 m2 m3, decodeWord c0 c1 c2 c3,
        body.take (decodeWord l0 l1 l2 l3).toNat, ?_⟩, rfl, ?_⟩
      · rw [length]
        exact UInt32.toNat_lt _
      · simp only [RecordBlock.encode, RecordBlock.record, ChangeRecord.header, length,
          UInt32.ofNat_toNat, UInt32.toUInt32_toInt32, encodeWord_decodeWord, List.cons_append,
          List.nil_append, List.take_append_drop]
    · cases head
  · cases head

theorem eq_nil_of_recordHead {buffer : Bytes} (head : recordHead buffer = .finished) :
    buffer = [] := by
  unfold recordHead at head
  split at head
  · rfl
  · dsimp only at head
    split at head <;> cases head
  · cases head

/-- A buffer is empty, or cut off at its head, or a whole record stands before the rest of it. -/
theorem recordHead_induction {holds : Bytes → Prop} (finished : holds [])
    (cutOff : ∀ buffer, recordHead buffer = .cutOff → holds buffer)
    (whole : ∀ (block : RecordBlock) (rest : Bytes), holds rest → holds (block.encode ++ rest))
    (buffer : Bytes) : holds buffer := by
  induction length : buffer.length using Nat.strongRecOn generalizing buffer with
  | ind length ih =>
    cases head : recordHead buffer with
    | finished =>
      rw [eq_nil_of_recordHead head]
      exact finished
    | cutOff => exact cutOff buffer head
    | record record rest =>
      have shorter := length_lt_of_recordHead head
      obtain ⟨block, -, rfl⟩ := exists_block_of_recordHead head
      exact whole block rest (ih rest.length (by omega) rest rfl)

theorem records_nil : records [] = [] := by
  rw [records, RecordCursor.run_start_nil]

theorem isTruncated_nil : isTruncated [] = false := by
  rw [isTruncated, RecordCursor.run_start_nil]
  rfl

theorem records_of_cutOff {buffer : Bytes} (cut : recordHead buffer = .cutOff) :
    records buffer = [] := by
  rw [records, RecordCursor.run_start_of_cutOff cut]

theorem isTruncated_of_cutOff {buffer : Bytes} (cut : recordHead buffer = .cutOff) :
    isTruncated buffer = true := by
  rw [isTruncated, RecordCursor.run_start_of_cutOff cut]

namespace RecordBlock

theorem records_encode_append (block : RecordBlock) (rest : Bytes) :
    records (block.encode ++ rest) = block.record :: records rest := by
  rw [records, RecordCursor.run_start_of_record (block.recordHead_encode_append rest), records]

theorem isTruncated_encode_append (block : RecordBlock) (rest : Bytes) :
    isTruncated (block.encode ++ rest) = isTruncated rest := by
  rw [isTruncated, RecordCursor.run_start_of_record (block.recordHead_encode_append rest),
    isTruncated]

theorem records_flatMap_encode_append (blocks : List RecordBlock) (rest : Bytes) :
    records (blocks.flatMap encode ++ rest) = blocks.map record ++ records rest := by
  induction blocks with
  | nil => rfl
  | cons block blocks ih =>
    rw [List.flatMap_cons, List.append_assoc, records_encode_append, ih, List.map_cons,
      List.cons_append]

end RecordBlock

/-- Behind a buffer that is not cut off the cursor goes on as at the start of another. -/
theorem read_append (first second : Bytes) (whole : isTruncated first = false) :
    records (first ++ second) = records first ++ records second ∧
      isTruncated (first ++ second) = isTruncated second := by
  induction first using recordHead_induction with
  | finished =>
    rw [records_nil]
    exact ⟨rfl, rfl⟩
  | cutOff first cut =>
    rw [isTruncated_of_cutOff cut] at whole
    exact nomatch whole
  | whole block rest ih =>
    rw [block.isTruncated_encode_append] at whole
    obtain ⟨read, ends⟩ := ih whole
    rw [List.append_assoc, block.records_encode_append, block.records_encode_append,
      block.isTruncated_encode_append, read, ends, List.cons_append]
    exact ⟨rfl, rfl⟩

/-- All that is read of a buffer are whole records at its head. -/
theorem exists_blocks (buffer : Bytes) : ∃ (blocks : List RecordBlock) (rest : Bytes),
    buffer = blocks.flatMap RecordBlock.encode ++ rest ∧
      records buffer = blocks.map RecordBlock.record := by
  induction buffer using recordHead_induction with
  | finished => exact ⟨[], [], rfl, records_nil⟩
  | cutOff buffer cut => exact ⟨[], buffer, rfl, records_of_cutOff cut⟩
  | whole block rest ih =>
    obtain ⟨blocks, more, split, read⟩ := ih
    refine ⟨block :: blocks, more, ?_, ?_⟩
    · rw [split, List.flatMap_cons, List.append_assoc]
    · rw [block.records_encode_append, read, List.map_cons]

/-- The search for a record of a sound device node finds one if there is one to be read. -/
theorem RecordCursor.anyPcmNodeChange_fst (cursor : RecordCursor) :
    cursor.anyPcmNodeChange.1 = cursor.run.1.any ChangeRecord.isPcmNodeChange := by
  induction length : cursor.rest.length using Nat.strongRecOn generalizing cursor with
  | ind length ih =>
    cases read : cursor.next.1 with
    | none =>
      rw [anyPcmNodeChange_of_none read, run_of_none read]
      rfl
    | some record =>
      have shorter := length_next read
      have rest := ih cursor.next.2.rest.length (by omega) cursor.next.2 rfl
      rw [anyPcmNodeChange_of_some read, run_of_some read, List.any_cons, ← rest]
      cases record.isPcmNodeChange <;> rfl

theorem hasPcmNodeChange_eq (buffer : Bytes) :
    hasPcmNodeChange buffer = (records buffer).any ChangeRecord.isPcmNodeChange :=
  RecordCursor.anyPcmNodeChange_fst _

/-- Among the whole records at the head of a read stands one of a sound device node. -/
def HoldsNodeChange (read : Bytes) : Prop :=
  ∃ (before : List RecordBlock) (block : RecordBlock) (rest : Bytes),
    read = before.flatMap RecordBlock.encode ++ (block.encode ++ rest) ∧ block.IsNodeChange

theorem hasPcmNodeChange_iff (read : Bytes) :
    hasPcmNodeChange read = true ↔ HoldsNodeChange read := by
  rw [hasPcmNodeChange_eq, List.any_eq_true]
  constructor
  · rintro ⟨record, member, relevant⟩
    obtain ⟨blocks, rest, split, read⟩ := exists_blocks read
    rw [read] at member
    obtain ⟨block, among, rfl⟩ := List.mem_map.mp member
    obtain ⟨before, after, rfl⟩ := List.append_of_mem among
    refine ⟨before, block, after.flatMap RecordBlock.encode ++ rest, ?_,
      block.isPcmNodeChange_record_iff.mp relevant⟩
    rw [split, List.flatMap_append, List.flatMap_cons, List.append_assoc, List.append_assoc]
  · rintro ⟨before, block, rest, rfl, relevant⟩
    refine ⟨block.record, ?_, block.isPcmNodeChange_record_iff.mpr relevant⟩
    rw [RecordBlock.records_flatMap_encode_append, block.records_encode_append]
    exact List.mem_append_right _ List.mem_cons_self

namespace RecordBlock

theorem encode_ne_nil (block : RecordBlock) : block.encode ≠ [] := by
  intro empty
  have length := congrArg List.length empty
  rw [encode, List.length_append, ChangeRecord.length_header] at length
  simp only [ChangeRecord.headerSize, List.length_nil] at length
  omega

theorem holdsNodeChange_flatMap_encode_iff (blocks : List RecordBlock) :
    HoldsNodeChange (blocks.flatMap encode) ↔ ∃ block ∈ blocks, block.IsNodeChange := by
  have read := records_flatMap_encode_append blocks []
  rw [List.append_nil, records_nil, List.append_nil] at read
  rw [← hasPcmNodeChange_iff, hasPcmNodeChange_eq, read]
  simp only [List.any_map, List.any_eq_true, Function.comp_apply, isPcmNodeChange_record_iff]

end RecordBlock

/-- A drain reads on behind bytes, and behind an interruption, which has the number 4. -/
def ReadsOn : ReadOutcome → Prop
  | .ok read => read ≠ []
  | .error failure => failure = .code 4

instance : (outcome : ReadOutcome) → Decidable (ReadsOn outcome)
  | .ok read => inferInstanceAs (Decidable (read ≠ []))
  | .error failure => inferInstanceAs (Decidable (failure = .code 4))

theorem drain_of_not_readsOn (tells : Bytes → Bool) (told : Bool) {last : ReadOutcome}
    (ends : ¬ReadsOn last) (rest : List ReadOutcome) :
    drain tells told (last :: rest) = some (told, rest) := by
  cases last with
  | ok read =>
    obtain rfl : read = [] := not_not.mp ends
    rfl
  | error failure => exact if_neg ends

/-- What a drain has been told when it has read so far. -/
theorem exists_drain_append (tells : Bytes → Bool) {before : List ReadOutcome}
    (on : ∀ outcome ∈ before, ReadsOn outcome) :
    ∃ also, (also = true ↔ ∃ read, .ok read ∈ before ∧ tells read = true) ∧
      ∀ told rest, drain tells told (before ++ rest) = drain tells (told || also) rest := by
  induction before with
  | nil =>
    refine ⟨false, by simp, ?_⟩
    intro told rest
    rw [Bool.or_false, List.nil_append]
  | cons outcome before ih =>
    rw [List.forall_mem_cons] at on
    obtain ⟨also, told, further⟩ := ih on.2
    cases outcome with
    | ok read =>
      refine ⟨tells read || also, ?_, ?_⟩
      · simp only [Bool.or_eq_true, told, List.mem_cons, Except.ok.injEq, or_and_right, exists_or,
          exists_eq_left]
      · intro told rest
        rw [List.cons_append, drain_of_ne_nil tells told on.1, further, Bool.or_assoc]
    | error failure =>
      obtain rfl : failure = .interrupted := on.1
      refine ⟨also, by simpa using told, ?_⟩
      intro told rest
      rw [List.cons_append, drain_interrupted, further]

/-- A drain comes to its end if some outcome ends it. -/
theorem drain_eq_none_iff (tells : Bytes → Bool) (told : Bool) (outcomes : List ReadOutcome) :
    drain tells told outcomes = none ↔ ∀ outcome ∈ outcomes, ReadsOn outcome := by
  constructor
  · intro unended
    induction outcomes generalizing told with
    | nil => exact nofun
    | cons outcome rest ih =>
      by_cases on : ReadsOn outcome
      · obtain ⟨also, -, further⟩ :=
          exists_drain_append tells (List.forall_mem_singleton.mpr on)
        have later := further told rest
        rw [List.singleton_append, unended] at later
        exact List.forall_mem_cons.mpr ⟨on, ih _ later.symm⟩
      · rw [drain_of_not_readsOn tells told on] at unended
        cases unended
  · intro on
    obtain ⟨also, -, further⟩ := exists_drain_append tells on
    have unended := further told []
    rw [List.append_nil] at unended
    exact unended

/-- A drain whose reads go on up to one that ends it. -/
theorem exists_drainChanges {before : List ReadOutcome} {last : ReadOutcome}
    (on : ∀ outcome ∈ before, ReadsOn outcome) (ends : ¬ReadsOn last) (rest : List ReadOutcome) :
    ∃ relevant, drainChanges (before ++ last :: rest) = some (relevant, rest) ∧
      (relevant = true ↔ ∃ read, .ok read ∈ before ∧ HoldsNodeChange read) := by
  obtain ⟨relevant, told, further⟩ := exists_drain_append hasPcmNodeChange on
  refine ⟨relevant, ?_, ?_⟩
  · rw [drainChanges, further, drain_of_not_readsOn _ _ ends, Bool.false_or]
  · simp only [told, hasPcmNodeChange_iff]

/-- Whole records, one or more in each of some reads, with interruptions between the reads. -/
inductive Spreads : List RecordBlock → List ReadOutcome → Prop
  | nil : Spreads [] []
  | read (block : RecordBlock) (more : List RecordBlock) {blocks : List RecordBlock}
      {outcomes : List ReadOutcome} (later : Spreads blocks outcomes) :
      Spreads (block :: more ++ blocks)
        (.ok ((block :: more).flatMap RecordBlock.encode) :: outcomes)
  | interrupted {blocks : List RecordBlock} {outcomes : List ReadOutcome}
      (later : Spreads blocks outcomes) : Spreads blocks (.error .interrupted :: outcomes)

namespace Spreads

variable {blocks : List RecordBlock} {outcomes : List ReadOutcome}

theorem readsOn (spreads : Spreads blocks outcomes) : ∀ outcome ∈ outcomes, ReadsOn outcome := by
  induction spreads with
  | nil => exact nofun
  | read block more later ih =>
    rw [List.forall_mem_cons]
    refine ⟨?_, ih⟩
    rw [ReadsOn, List.flatMap_cons]
    exact List.append_ne_nil_of_left_ne_nil block.encode_ne_nil _
  | interrupted later ih => exact List.forall_mem_cons.mpr ⟨rfl, ih⟩

theorem holdsNodeChange_iff (spreads : Spreads blocks outcomes) :
    (∃ read, .ok read ∈ outcomes ∧ HoldsNodeChange read) ↔
      ∃ block ∈ blocks, block.IsNodeChange := by
  induction spreads with
  | nil => simp
  | read block more later ih =>
    simp only [List.mem_cons, Except.ok.injEq, or_and_right, exists_or, exists_eq_left, ih,
      List.mem_append, RecordBlock.holdsNodeChange_flatMap_encode_iff]
  | interrupted later ih => simpa using ih

end Spreads

/-- Where one read ends and the next begins does not matter. Reading on behind a buffer that is not
cut off is reading the next one. A drain ends with the first read that yields nothing or fails
otherwise than by an interruption, and tells of a sound device node exactly if one of its reads
before holds a whole record of one, cut off or not. Of whole records it tells the same however they
are spread over reads, and wherever the relevant one stands. -/
theorem draining_ignores_read_boundaries :
    (∀ first second : Bytes, isTruncated first = false →
      records (first ++ second) = records first ++ records second ∧
        isTruncated (first ++ second) = isTruncated second) ∧
    (∀ outcomes, drainChanges outcomes = none ↔ ∀ outcome ∈ outcomes, ReadsOn outcome) ∧
    (∀ (before : List ReadOutcome) (last : ReadOutcome) (rest : List ReadOutcome),
      (∀ outcome ∈ before, ReadsOn outcome) → ¬ReadsOn last →
        ∃ relevant, drainChanges (before ++ last :: rest) = some (relevant, rest) ∧
          (relevant = true ↔ ∃ read, .ok read ∈ before ∧ HoldsNodeChange read)) ∧
    ∀ (blocks : List RecordBlock) (before : List ReadOutcome) (last : ReadOutcome)
      (rest : List ReadOutcome), Spreads blocks before → ¬ReadsOn last →
        drainChanges (before ++ last :: rest) =
          some (decide (∃ block ∈ blocks, block.IsNodeChange), rest) := by
  refine ⟨read_append, drain_eq_none_iff _ _, ?_, ?_⟩
  · intro before last rest on ends
    exact exists_drainChanges on ends rest
  · intro blocks before last rest spreads ends
    obtain ⟨relevant, drained, told⟩ := exists_drainChanges spreads.readsOn ends rest
    rw [spreads.holdsNodeChange_iff] at told
    rw [drained, Bool.eq_iff_iff.mpr (told.trans decide_eq_true_iff.symm)]

/-- A node came. The field of its record is padded with what is not looked at. -/
def RecordBlock.nodeCame : RecordBlock :=
  ⟨1, 0x100, 0, Text.encode "pcmC0D0p" ++ [0, 1, 2], by decide⟩

/-- The node is told whether its record stands before the cut or in a read of its own behind it, but
not behind a read of nothing. -/
theorem draining_ignores_read_boundaries_at_cut :
    isTruncated RecordBlock.nodeCame.encode = false ∧
      records (RecordBlock.nodeCame.encode ++ [1, 2]) =
        records RecordBlock.nodeCame.encode ++ records [1, 2] ∧
      drainChanges [.ok (RecordBlock.nodeCame.encode ++ [1, 2]), .error .wouldBlock] =
        some (true, []) ∧
      drainChanges [.ok [1, 2], .error .interrupted, .ok RecordBlock.nodeCame.encode, .ok []] =
        some (true, []) ∧
      drainChanges [.ok [], .ok RecordBlock.nodeCame.encode] =
        some (false, [.ok RecordBlock.nodeCame.encode]) := by
  obtain ⟨append, -, drains, -⟩ := draining_ignores_read_boundaries
  have whole : isTruncated RecordBlock.nodeCame.encode = false := by
    rw [← List.append_nil RecordBlock.nodeCame.encode,
      RecordBlock.isTruncated_encode_append, isTruncated_nil]
  have relevant : RecordBlock.nodeCame.IsNodeChange := by decide
  refine ⟨whole, (append _ [1, 2] whole).1, ?_, ?_, ?_⟩
  · obtain ⟨told, drained, tells⟩ := drains [.ok (RecordBlock.nodeCame.encode ++ [1, 2])]
      (.error .wouldBlock) [] (by simp [ReadsOn]) (by decide)
    obtain rfl : told = true :=
      tells.mpr ⟨_, List.mem_singleton.mpr rfl, [], .nodeCame, [1, 2], rfl, relevant⟩
    exact drained
  · obtain ⟨told, drained, tells⟩ := drains
      [.ok [1, 2], .error .interrupted, .ok RecordBlock.nodeCame.encode] (.ok []) []
      (by simp [ReadsOn, OsError.interrupted, RecordBlock.encode_ne_nil]) (by decide)
    have own : HoldsNodeChange RecordBlock.nodeCame.encode := by
      refine ⟨[], .nodeCame, [], ?_, relevant⟩
      rw [List.append_nil, List.flatMap_nil, List.nil_append]
    obtain rfl : told = true := tells.mpr ⟨_, by simp, own⟩
    exact drained
  · obtain ⟨told, drained, tells⟩ := drains [] (.ok []) [.ok RecordBlock.nodeCame.encode] nofun
      (by decide)
    obtain rfl : told = false := by
      rw [← Bool.not_eq_true, tells]
      simp
    exact drained

end SoundDevices
