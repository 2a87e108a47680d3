import Mathlib.Data.List.Forall2
import SoundDevices.Proofs.ReadBoundaries

set_option autoImplicit false

/- The grammar of a buffer of change records. Any bytes at all split in one way only into blocks,
each a header and as many bytes as its last word tells, and a rest at which no block begins. What is
read of a buffer are its blocks, one record for each, and it is truncated if there is something
behind them. -/
namespace SoundDevices

/-- The number that the four bytes from a place on stand for, lowest first; none if there are
fewer. -/
def wordAt? (bytes : Bytes) (place : Nat) : Option UInt32 :=
  match bytes.drop place with
  | b0 :: b1 :: b2 :: b3 :: _ =>
    some (.ofNat (b0.toNat + 256 * (b1.toNat + 256 * (b2.toNat + 256 * b3.toNat))))
  | _ => none

theorem decodeWord_eq (b0 b1 b2 b3 : UInt8) :
    decodeWord b0 b1 b2 b3 =
      .ofNat (b0.toNat + 256 * (b1.toNat + 256 * (b2.toNat + 256 * b3.toNat))) := by
  have h0 := b0.toNat_lt
  have h1 := b1.toNat_lt
  have h2 := b2.toNat_lt
  have h3 := b3.toNat_lt
  apply UInt32.toNat_inj.mp
  rw [toNat_decodeWord, UInt32.toNat_ofNat_of_lt' (by rw [UInt32.size]; omega)]
  omega

theorem wordAt?_of_drop {bytes rest : Bytes} {place : Nat} {b0 b1 b2 b3 : UInt8}
    (ahead : bytes.drop place = b0 :: b1 :: b2 :: b3 :: rest) :
    wordAt? bytes place = some (decodeWord b0 b1 b2 b3) := by
  rw [wordAt?, ahead, decodeWord_eq]

theorem wordAt?_append {bytes : Bytes} {place : Nat} {word : UInt32}
    (stands : wordAt? bytes place = some word) (more : Bytes) :
    wordAt? (bytes ++ more) place = some word := by
  unfold wordAt? at stands ⊢
  rw [List.drop_append]
  split at stands
  · next b0 b1 b2 b3 behind ahead =>
    rw [ahead]
    exact stands
  · cases stands

/-- A header, and as many bytes as its last word tells. -/
def IsBlock (bytes : Bytes) : Prop :=
  ∃ length : UInt32, wordAt? bytes 12 = some length ∧
    bytes.length = ChangeRecord.headerSize + length.toNat

/-- Nothing, or too few bytes for a header, or a header that tells of more bytes than follow it. -/
def IsRest (bytes : Bytes) : Prop :=
  bytes = [] ∨ bytes.length < ChangeRecord.headerSize ∨
    ∃ length : UInt32, wordAt? bytes 12 = some length ∧
      bytes.length < ChangeRecord.headerSize + length.toNat

/-- A buffer falls into blocks, one behind the other, and a rest. -/
structure Splits (buffer : Bytes) (blocks : List Bytes) (rest : Bytes) : Prop where
  parts : buffer = blocks.flatten ++ rest
  whole : ∀ block ∈ blocks, IsBlock block
  ends : IsRest rest

theorem IsBlock.headerSize_le_length {block : Bytes} (whole : IsBlock block) :
    ChangeRecord.headerSize ≤ block.length := by
  obtain ⟨length, -, size⟩ := whole
  omega

/-- Where a block begins, the bytes tell themselves where it ends. -/
theorem IsBlock.append_inj {first second rest other : Bytes} (one : IsBlock first)
    (another : IsBlock second) (same : first ++ rest = second ++ other) :
    first = second ∧ rest = other := by
  obtain ⟨length, told, size⟩ := one
  obtain ⟨length', told', size'⟩ := another
  have equal : length = length' := by
    have here := wordAt?_append told rest
    rw [same, wordAt?_append told' other] at here
    exact (Option.some.inj here).symm
  subst equal
  exact List.append_inj same (by omega)

theorem IsBlock.not_isRest_append {block : Bytes} (whole : IsBlock block) (more : Bytes) :
    ¬IsRest (block ++ more) := by
  have header := whole.headerSize_le_length
  have positive : 0 < ChangeRecord.headerSize := by decide
  obtain ⟨length, told, size⟩ := whole
  rintro (empty | short | ⟨other, toldToo, missing⟩)
  · have none := congrArg List.length empty
    rw [List.length_append, List.length_nil] at none
    omega
  · rw [List.length_append] at short
    omega
  · rw [wordAt?_append told more] at toldToo
    obtain rfl := Option.some.inj toldToo
    rw [List.length_append] at missing
    omega

namespace Splits

variable {buffer rest other : Bytes} {blocks others : List Bytes}

theorem tail {block : Bytes} (split : Splits buffer (block :: blocks) rest) :
    IsBlock block ∧ buffer = block ++ (blocks.flatten ++ rest) ∧
      Splits (blocks.flatten ++ rest) blocks rest := by
  refine ⟨split.whole block List.mem_cons_self, ?_, rfl, ?_, split.ends⟩
  · rw [split.parts, List.flatten_cons, List.append_assoc]
  · intro later member
    exact split.whole later (List.mem_cons_of_mem block member)

theorem cons {block : Bytes} (whole : IsBlock block) (split : Splits buffer blocks rest) :
    Splits (block ++ buffer) (block :: blocks) rest := by
  refine ⟨?_, ?_, split.ends⟩
  · rw [split.parts, List.flatten_cons, List.append_assoc]
  · intro member among
    rcases List.mem_cons.mp among with rfl | among
    · exact whole
    · exact split.whole member among

/-- There is no other way to split a buffer. -/
theorem unique (split : Splits buffer blocks rest) (another : Splits buffer others other) :
    others = blocks ∧ other = rest := by
  induction blocks generalizing buffer others with
  | nil =>
    cases others with
    | nil =>
      have parts := another.parts
      rw [split.parts] at parts
      exact ⟨rfl, parts.symm⟩
    | cons block others =>
      obtain ⟨whole, parts, -⟩ := another.tail
      have ends : IsRest buffer := by
        rw [split.parts]
        exact split.ends
      rw [parts] at ends
      exact absurd ends (whole.not_isRest_append _)
  | cons block blocks ih =>
    obtain ⟨whole, parts, behind⟩ := split.tail
    cases others with
    | nil =>
      have ends : IsRest buffer := by
        rw [another.parts]
        exact another.ends
      rw [parts] at ends
      exact absurd ends (whole.not_isRest_append _)
    | cons block' others =>
      -- the two first blocks have the same header, and so the same length
      obtain ⟨whole', parts', behind'⟩ := another.tail
      rw [parts] at parts'
      obtain ⟨rfl, same⟩ := whole.append_inj whole' parts'
      rw [← same] at behind'
      obtain ⟨rfl, rfl⟩ := ih behind behind'
      exact ⟨rfl, rfl⟩

theorem length_mul_le (split : Splits buffer blocks rest) :
    blocks.length * ChangeRecord.headerSize ≤ buffer.length := by
  induction blocks generalizing buffer with
  | nil => exact Nat.zero_mul _ ▸ Nat.zero_le _
  | cons block blocks ih =>
    obtain ⟨whole, parts, behind⟩ := split.tail
    have shorter := ih behind
    have header := whole.headerSize_le_length
    rw [parts, List.length_append, List.length_cons, Nat.succ_mul]
    omega

end Splits

/-- The bytes of a field before its first NUL, all of them if it has none. -/
def IsBeforeNul (field name : Bytes) : Prop :=
  0 ∉ name ∧ (field = name ∨ ∃ behind, field = name ++ 0 :: behind)

theorem isBeforeNul_takeWhile (field : Bytes) : IsBeforeNul field (field.takeWhile (· != 0)) := by
  constructor
  · intro member
    have plain := List.all_eq_true.mp List.all_takeWhile 0 member
    exact absurd rfl (bne_iff_ne.mp plain)
  · have parts := List.takeWhile_append_dropWhile (p := (· != 0)) (l := field)
    cases left : field.dropWhile (· != 0) with
    | nil =>
      rw [left, List.append_nil] at parts
      exact Or.inl parts.symm
    | cons byte behind =>
      have some : field.dropWhile (· != 0) ≠ [] := left ▸ List.cons_ne_nil byte behind
      have nul : byte = 0 := by
        have first := List.head_dropWhile_not (· != 0) some
        simpa only [left, List.head_cons, bne_eq_false_iff_eq] using first
      rw [left, nul] at parts
      exact Or.inr ⟨behind, parts.symm⟩

/-- What a block says of a change: three words, and a name in the field behind the header. -/
structure Tells (block : Bytes) (record : ChangeRecord) : Prop where
  watch : wordAt? block 0 = some record.watch.toUInt32
  mask : wordAt? block 4 = some record.mask
  cookie : wordAt? block 8 = some record.cookie
  name : IsBeforeNul (block.drop ChangeRecord.headerSize) record.name

/-- The four words of a header, each in its place. -/
theorem wordAt?_header (record : ChangeRecord) (length : UInt32) (body : Bytes) :
    wordAt? (record.header length ++ body) 0 = some record.watch.toUInt32 ∧
      wordAt? (record.header length ++ body) 4 = some record.mask ∧
      wordAt? (record.header length ++ body) 8 = some record.cookie ∧
      wordAt? (record.header length ++ body) 12 = some length := by
  have word {place : Nat} {word : UInt32} {rest : Bytes}
      (ahead : (record.header length ++ body).drop place = encodeWord word ++ rest) :
      wordAt? (record.header length ++ body) place = some word := by
    rw [wordAt?_of_drop ahead, decodeWord_bytes]
  exact ⟨word rfl, word rfl, word rfl, word rfl⟩

namespace RecordBlock

variable (block : RecordBlock)

theorem length_encode :
    block.encode.length = ChangeRecord.headerSize + block.field.length := by
  rw [encode, List.length_append, ChangeRecord.length_header]

theorem isBlock_encode : IsBlock block.encode := by
  have length : (UInt32.ofNat block.field.length).toNat = block.field.length :=
    UInt32.toNat_ofNat_of_lt' block.length_lt
  obtain ⟨-, -, -, told⟩ := wordAt?_header block.record (.ofNat block.field.length) block.field
  refine ⟨UInt32.ofNat block.field.length, told, ?_⟩
  rw [block.length_encode, length]

theorem tells_encode : Tells block.encode block.record := by
  obtain ⟨watch, mask, cookie, -⟩ :=
    wordAt?_header block.record (.ofNat block.field.length) block.field
  refine ⟨watch, mask, cookie, ?_⟩
  rw [encode, List.drop_left' (ChangeRecord.length_header _ _)]
  exact isBeforeNul_takeWhile block.field

end RecordBlock

theorem exists_word {bytes : Bytes} (long : 4 ≤ bytes.length) :
    ∃ b0 b1 b2 b3 rest, bytes = b0 :: b1 :: b2 :: b3 :: rest := by
  match bytes with
  | b0 :: b1 :: b2 :: b3 :: rest => exact ⟨b0, b1, b2, b3, rest, rfl⟩
  | [] | [_] | [_, _] | [_, _, _] =>
    simp only [List.length_cons, List.length_nil] at long
    omega

/-- No record is read where no block begins. -/
theorem isRest_of_cutOff {buffer : Bytes} (cut : recordHead buffer = .cutOff) : IsRest buffer := by
  by_cases short : buffer.length < ChangeRecord.headerSize
  · exact Or.inr (Or.inl short)
  · simp only [ChangeRecord.headerSize, Nat.not_lt] at short
    obtain ⟨w0, w1, w2, w3, behindWatch, rfl⟩ := exists_word (by omega : 4 ≤ buffer.length)
    simp only [List.length_cons] at short
    obtain ⟨m0, m1, m2, m3, behindMask, rfl⟩ := exists_word (by omega : 4 ≤ behindWatch.length)
    simp only [List.length_cons] at short
    obtain ⟨c0, c1, c2, c3, behindCookie, rfl⟩ := exists_word (by omega : 4 ≤ behindMask.length)
    simp only [List.length_cons] at short
    obtain ⟨l0, l1, l2, l3, body, rfl⟩ := exists_word (by omega : 4 ≤ behindCookie.length)
    refine Or.inr (Or.inr ⟨decodeWord l0 l1 l2 l3, wordAt?_of_drop rfl, ?_⟩)
    dsimp only [recordHead] at cut
    split at cut
    · cases cut
    · simp only [List.length_cons, ChangeRecord.headerSize]
      omega

theorem recordHead_of_isRest {buffer : Bytes} (ends : IsRest buffer) (left : buffer ≠ []) :
    recordHead buffer = .cutOff := by
  cases head : recordHead buffer with
  | finished => exact absurd (eq_nil_of_recordHead head) left
  | cutOff => rfl
  | record record rest =>
    obtain ⟨block, -, rfl⟩ := exists_block_of_recordHead head
    exact absurd ends (block.isBlock_encode.not_isRest_append rest)

theorem IsBlock.exists_encode_eq {bytes : Bytes} (whole : IsBlock bytes) :
    ∃ block : RecordBlock, block.encode = bytes := by
  have header := whole.headerSize_le_length
  cases head : recordHead bytes with
  | finished =>
    rw [eq_nil_of_recordHead head] at header
    exact absurd header (by decide)
  | cutOff =>
    have ends := isRest_of_cutOff head
    rw [← List.append_nil bytes] at ends
    exact absurd ends (whole.not_isRest_append [])
  | record record rest =>
    obtain ⟨block, -, parts⟩ := exists_block_of_recordHead head
    have same : block.encode ++ rest = bytes ++ [] := by rw [List.append_nil, parts]
    exact ⟨block, (block.isBlock_encode.append_inj whole same).1⟩

theorem exists_splits (buffer : Bytes) : ∃ blocks rest, Splits buffer blocks rest := by
  induction buffer using recordHead_induction with
  | finished => exact ⟨[], [], rfl, nofun, Or.inl rfl⟩
  | cutOff buffer cut => exact ⟨[], buffer, rfl, nofun, isRest_of_cutOff cut⟩
  | whole block rest ih =>
    obtain ⟨blocks, last, split⟩ := ih
    exact ⟨block.encode :: blocks, last, split.cons block.isBlock_encode⟩

/-- The blocks are read one by one, and what is behind them is noticed. -/
theorem Splits.reads {buffer rest : Bytes} {blocks : List Bytes}
    (split : Splits buffer blocks rest) :
    List.Forall₂ Tells blocks (records buffer) ∧ (isTruncated buffer = true ↔ rest ≠ []) := by
  induction blocks generalizing buffer with
  | nil =>
    have parts := split.parts
    rw [List.flatten_nil, List.nil_append] at parts
    subst parts
    by_cases left : buffer = []
    · subst left
      rw [records_nil, isTruncated_nil]
      exact ⟨.nil, iff_of_false Bool.false_ne_true (not_not_intro rfl)⟩
    · have cut := recordHead_of_isRest split.ends left
      rw [records_of_cutOff cut, isTruncated_of_cutOff cut]
      exact ⟨.nil, iff_of_true rfl left⟩
  | cons bytes blocks ih =>
    obtain ⟨whole, parts, behind⟩ := split.tail
    obtain ⟨block, rfl⟩ := whole.exists_encode_eq
    obtain ⟨told, truncated⟩ := ih behind
    rw [parts, block.records_encode_append, block.isTruncated_encode_append]
    exact ⟨.cons block.tells_encode told, truncated⟩

end SoundDevices
