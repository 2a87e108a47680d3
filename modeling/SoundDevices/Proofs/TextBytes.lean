import Mathlib.Data.List.TakeWhile
import SoundDevices.Text.Utf8

set_option autoImplicit false

namespace SoundDevices.Text

/-- The lead byte and the byte behind it begin a sequence of so many bytes behind the lead. -/
def Leads (lead second : UInt8) (following : Nat) : Prop :=
  ∃ low high, secondByteRange lead = some (low, high, following) ∧ low ≤ second ∧ second ≤ high

/-- What the ranges of the second byte come to: the bits of the two bytes are those of no number
that takes fewer bytes, of no surrogate, and of none past U+10FFFF. -/
theorem leads_iff (lead second : UInt8) (following : Nat) :
    Leads lead second following ↔ 0x80 ≤ second.toNat ∧ second.toNat ≤ 0xBF ∧
      (following = 1 ∧ 0xC2 ≤ lead.toNat ∧ lead.toNat ≤ 0xDF ∨
       following = 2 ∧ 0xE0 ≤ lead.toNat ∧ lead.toNat ≤ 0xEF ∧
        32 ≤ lead.toNat % 16 * 64 + second.toNat % 64 ∧
        (lead.toNat % 16 * 64 + second.toNat % 64 < 864 ∨
          896 ≤ lead.toNat % 16 * 64 + second.toNat % 64) ∨
       following = 3 ∧ 0xF0 ≤ lead.toNat ∧ lead.toNat ≤ 0xF4 ∧
        16 ≤ lead.toNat % 8 * 64 + second.toNat % 64 ∧
        lead.toNat % 8 * 64 + second.toNat % 64 < 272) := by
  have small := lead.toNat_lt_size
  simp only [Leads, secondByteRange, Bool.and_eq_true, decide_eq_true_eq, UInt8.le_iff_toNat_le,
    beq_iff_eq, ← UInt8.toNat_inj, UInt8.reduceToNat]
  split_ifs <;> simp [and_assoc] <;> omega

theorem isContinuation_iff (b : UInt8) :
    isContinuation b = true ↔ 0x80 ≤ b.toNat ∧ b.toNat ≤ 0xBF := by
  simp [isContinuation, UInt8.le_iff_toNat_le]

namespace Leads

variable {lead second : UInt8} {following : Nat}

theorem isContinuation (leads : Leads lead second following) :
    isContinuation second = true := by
  obtain ⟨low, high, -⟩ := (leads_iff lead second following).mp leads
  exact (isContinuation_iff second).mpr ⟨low, high⟩

theorem following_pos (leads : Leads lead second following) : 0 < following := by
  have bounds := (leads_iff lead second following).mp leads
  omega

theorem not_lt (leads : Leads lead second following) : ¬lead < 0x80 := by
  have bounds := (leads_iff lead second following).mp leads
  simp only [UInt8.lt_iff_toNat_lt, UInt8.reduceToNat]
  omega

end Leads

/-- The second byte and the others behind it make a well-formed sequence with the lead byte. -/
structure IsTail (lead second : UInt8) (others : Bytes) : Prop where
  leads : Leads lead second (others.length + 1)
  continued : ∀ b ∈ others, isContinuation b = true

theorem isTail_iff (lead second : UInt8) (others : Bytes) :
    IsTail lead second others ↔
      Leads lead second (others.length + 1) ∧ ∀ b ∈ others, 0x80 ≤ b.toNat ∧ b.toNat ≤ 0xBF := by
  simp only [← isContinuation_iff]
  exact ⟨fun isTail => ⟨isTail.leads, isTail.continued⟩, fun both => ⟨both.1, both.2⟩⟩

/-- The number whose bits a lead byte and the bytes behind it carry. -/
def sequenceValue (lead : UInt8) (tail : Bytes) : Nat :=
  tail.foldl (fun n b => n * 64 + b.toNat % 64) (leadBits lead tail.length)

theorem sequenceValue_two (lead second : UInt8) :
    sequenceValue lead [second] = lead.toNat % 32 * 64 + second.toNat % 64 := by
  simp [sequenceValue, leadBits]

theorem sequenceValue_three (lead second third : UInt8) :
    sequenceValue lead [second, third] =
      (lead.toNat % 16 * 64 + second.toNat % 64) * 64 + third.toNat % 64 := by
  simp [sequenceValue, leadBits]

theorem sequenceValue_four (lead second third fourth : UInt8) :
    sequenceValue lead [second, third, fourth] =
      ((lead.toNat % 8 * 64 + second.toNat % 64) * 64 + third.toNat % 64) * 64 +
        fourth.toNat % 64 := by
  simp [sequenceValue, leadBits]

theorem utf8Head_of_isTail {lead second : UInt8} {others : Bytes}
    (isTail : IsTail lead second others) (rest : Bytes) :
    utf8Head lead (second :: (others ++ rest)) =
      ⟨some (Char.ofNat (sequenceValue lead (second :: others))), others.length + 1⟩ := by
  have run : (second :: others).takeWhile isContinuation = second :: others := by
    rw [List.takeWhile_eq_self_iff]
    intro b member
    rcases List.mem_cons.mp member with rfl | member
    · exact isTail.leads.isContinuation
    · exact isTail.continued b member
  have taken : (second :: (others ++ rest)).take (others.length + 1) = second :: others := by simp
  obtain ⟨low, high, range, above, below⟩ := isTail.leads
  simp [utf8Head, isTail.leads.not_lt, range, above, below, taken, run, sequenceValue]

/-- A run that is as long as it may be is all that was looked at. -/
theorem exists_run_eq_append {bytes : Bytes} {count : Nat}
    (long : count ≤ ((bytes.take count).takeWhile isContinuation).length) :
    ∃ run more, bytes = run ++ more ∧ run.length = count ∧
      (∀ b ∈ run, isContinuation b = true) ∧ (bytes.take count).takeWhile isContinuation = run := by
  have most := List.length_take_le count bytes
  have whole : (bytes.take count).takeWhile isContinuation = bytes.take count :=
    (List.takeWhile_prefix _).eq_of_length_le (Nat.le_trans most long)
  rw [whole] at long
  exact ⟨bytes.take count, bytes.drop count, (List.take_append_drop count bytes).symm,
    Nat.le_antisymm most long, List.takeWhile_eq_self_iff.mp whole, whole⟩

/-- A head of more than one byte that is a character has a well-formed tail. -/
theorem exists_isTail_of_utf8Head {lead : UInt8} {rest : Bytes} {c : Char} {trailing : Nat}
    (large : ¬lead < 0x80) (head : utf8Head lead rest = ⟨some c, trailing⟩) :
    ∃ second others more, rest = second :: (others ++ more) ∧ trailing = others.length + 1 ∧
      IsTail lead second others ∧ c = Char.ofNat (sequenceValue lead (second :: others)) := by
  rw [utf8Head, if_neg large] at head
  cases range : secondByteRange lead with
  | none => simp [range] at head
  | some bounds =>
    obtain ⟨low, high, following⟩ := bounds
    cases rest with
    | nil => simp [range] at head
    | cons second rest =>
      simp only [range] at head
      split at head
      · simp at head
      next fits =>
      split at head
      · simp at head
      next long =>
      have leads : Leads lead second following := ⟨low, high, range, by simpa using fits⟩
      obtain ⟨run, more, split, length, continued, taken⟩ :=
        exists_run_eq_append (Nat.not_lt.mp long)
      simp only [taken, Utf8Head.mk.injEq, Option.some.injEq] at head
      obtain ⟨rfl, rfl⟩ := head
      cases run with
      | nil => exact absurd length (Nat.ne_of_lt leads.following_pos)
      | cons first others =>
        obtain ⟨rfl, rfl⟩ := List.cons.inj split
        rw [← length] at leads ⊢
        rw [List.forall_mem_cons] at continued
        exact ⟨second, others, more, rfl, rfl, ⟨leads, continued.2⟩, rfl⟩

/-- The bytes of a character as numbers. -/
theorem toNat_utf8EncodeChar (c : Char) :
    (String.utf8EncodeChar c).map UInt8.toNat =
      if c.toNat < 0x80 then [c.toNat]
      else if c.toNat < 0x800 then [0xC0 + c.toNat / 64, 0x80 + c.toNat % 64]
      else if c.toNat < 0x10000 then
        [0xE0 + c.toNat / 4096, 0x80 + c.toNat / 64 % 64, 0x80 + c.toNat % 64]
      else
        [0xF0 + c.toNat / 262144, 0x80 + c.toNat / 4096 % 64, 0x80 + c.toNat / 64 % 64,
          0x80 + c.toNat % 64] := by
  have valid : c.toNat < 0xD800 ∨ 0xDFFF < c.toNat ∧ c.toNat < 0x110000 := c.valid
  have number : c.val.toNat = c.toNat := rfl
  rw [String.utf8EncodeChar, number]
  split_ifs <;> simp <;> omega

theorem utf8EncodeChar_eq_iff (c : Char) (bytes : Bytes) :
    String.utf8EncodeChar c = bytes ↔
      (String.utf8EncodeChar c).map UInt8.toNat = bytes.map UInt8.toNat :=
  (List.map_inj_right fun _ _ => UInt8.toNat_inj.mp).symm

theorem utf8EncodeChar_eq_singleton_iff (c : Char) (lead : UInt8) :
    String.utf8EncodeChar c = [lead] ↔ lead.toNat < 0x80 ∧ lead.toNat = c.toNat := by
  rw [utf8EncodeChar_eq_iff, toNat_utf8EncodeChar]
  split_ifs <;> simp <;> omega

/-- The encodings of more than one byte are the well-formed sequences, each of the character whose
number it carries. -/
theorem utf8EncodeChar_eq_cons_cons_iff (c : Char) (lead second : UInt8) (others : Bytes) :
    String.utf8EncodeChar c = lead :: second :: others ↔
      IsTail lead second others ∧ sequenceValue lead (second :: others) = c.toNat := by
  have valid : c.toNat < 0xD800 ∨ 0xDFFF < c.toNat ∧ c.toNat < 0x110000 := c.valid
  have small := lead.toNat_lt_size
  rw [utf8EncodeChar_eq_iff, toNat_utf8EncodeChar, isTail_iff, leads_iff]
  match others with
  | [] =>
    rw [sequenceValue_two]
    split_ifs <;> simp <;> omega
  | [third] =>
    rw [sequenceValue_three]
    split_ifs <;> simp <;> omega
  | [third, fourth] =>
    rw [sequenceValue_four]
    split_ifs <;> simp <;> omega
  | _ :: _ :: _ :: _ => split_ifs <;> simp

/-- A well-formed sequence carries the number of a character. -/
theorem IsTail.isValidChar {lead second : UInt8} {others : Bytes}
    (isTail : IsTail lead second others) :
    (sequenceValue lead (second :: others)).isValidChar := by
  have bounds := (leads_iff _ _ _).mp isTail.leads
  rw [Nat.isValidChar]
  match others with
  | [] =>
    simp only [List.length_nil] at bounds
    rw [sequenceValue_two]
    omega
  | [third] =>
    simp only [List.length_cons, List.length_nil] at bounds
    rw [sequenceValue_three]
    omega
  | [third, fourth] =>
    simp only [List.length_cons, List.length_nil] at bounds
    rw [sequenceValue_four]
    omega
  | _ :: _ :: _ :: _ =>
    simp only [List.length_cons] at bounds
    omega

theorem toNat_ofNat_of_isValidChar {n : Nat} (valid : n.isValidChar) :
    (Char.ofNat n).toNat = n := by
  rw [Char.ofNat, dif_pos valid]
  rfl

/-- A head that is a character stands for the encoding of that character. -/
theorem utf8EncodeChar_of_utf8Head {lead : UInt8} {rest : Bytes} {c : Char} {trailing : Nat}
    (head : utf8Head lead rest = ⟨some c, trailing⟩) :
    String.utf8EncodeChar c = lead :: rest.take trailing := by
  by_cases small : lead < 0x80
  · rw [utf8Head, if_pos small] at head
    simp only [Utf8Head.mk.injEq, Option.some.injEq] at head
    obtain ⟨rfl, rfl⟩ := head
    simp only [UInt8.lt_iff_toNat_lt, UInt8.reduceToNat] at small
    have number := toNat_ofNat_of_isValidChar (n := lead.toNat) (Or.inl (by omega))
    exact (utf8EncodeChar_eq_singleton_iff _ lead).mpr ⟨small, number.symm⟩
  · obtain ⟨second, others, more, rfl, rfl, isTail, rfl⟩ := exists_isTail_of_utf8Head small head
    rw [(utf8EncodeChar_eq_cons_cons_iff _ lead second others).mpr
      ⟨isTail, (toNat_ofNat_of_isValidChar isTail.isValidChar).symm⟩]
    simp

/-- The encoding of a character is read as that character. -/
theorem scan_utf8EncodeChar_append (c : Char) (rest : Bytes) :
    scan (String.utf8EncodeChar c ++ rest) = some c :: scan rest := by
  match bytes : String.utf8EncodeChar c with
  | [] => exact absurd bytes String.utf8EncodeChar_ne_nil
  | [lead] =>
    obtain ⟨small, number⟩ := (utf8EncodeChar_eq_singleton_iff c lead).mp bytes
    have below : lead < 0x80 := UInt8.lt_iff_toNat_lt.mpr small
    rw [List.singleton_append, scan_cons, utf8Head, if_pos below, number, Char.ofNat_toNat,
      List.drop_zero]
  | lead :: second :: others =>
    obtain ⟨isTail, number⟩ := (utf8EncodeChar_eq_cons_cons_iff c lead second others).mp bytes
    rw [List.cons_append, List.cons_append, scan_cons, utf8Head_of_isTail isTail, number,
      Char.ofNat_toNat, List.drop_succ_cons, List.drop_left]

theorem scan_flatMap_utf8EncodeChar (chars : List Char) :
    scan (chars.flatMap String.utf8EncodeChar) = chars.map some := by
  induction chars with
  | nil => exact scan_nil
  | cons c chars ih => rw [List.flatMap_cons, scan_utf8EncodeChar_append, ih, List.map_cons]

/-- Bytes without an ill-formed part are the encoding of what is read of them. -/
theorem eq_flatMap_of_scan {bytes : Bytes} {chars : List Char}
    (read : scan bytes = chars.map some) : bytes = chars.flatMap String.utf8EncodeChar := by
  fun_induction scan bytes generalizing chars with
  | case1 => rw [List.map_eq_nil_iff.mp read.symm, List.flatMap_nil]
  | case2 lead rest head =>
    rename_i ih
    obtain ⟨c, others, rfl, value, behind⟩ := List.map_eq_cons_iff.mp read.symm
    have stands : utf8Head lead rest = ⟨some c, (utf8Head lead rest).trailing⟩ := by rw [value]
    rw [List.flatMap_cons, utf8EncodeChar_of_utf8Head stands, ← ih behind.symm, List.cons_append,
      List.take_append_drop]

theorem mapM_id_eq_some_iff {α : Type} (values : List (Option α)) (found : List α) :
    values.mapM id = some found ↔ values = found.map some := by
  induction values generalizing found with
  | nil => cases found <;> simp
  | cons value values ih =>
    rw [List.mapM_cons]
    cases value <;> cases found <;> simp [Option.bind_eq_some_iff, ih, and_left_comm]

/-- Bytes decode to a text exactly if they are its encoding. -/
theorem decode?_eq_some_iff (bytes : Bytes) (text : String) :
    decode? bytes = some text ↔ bytes = encode text := by
  rw [decode?, Option.map_eq_some_iff]
  constructor
  · rintro ⟨chars, whole, rfl⟩
    rw [encode, String.toList_ofList]
    exact eq_flatMap_of_scan ((mapM_id_eq_some_iff _ chars).mp whole)
  · rintro rfl
    refine ⟨text.toList, ?_, String.ofList_toList⟩
    rw [mapM_id_eq_some_iff]
    exact scan_flatMap_utf8EncodeChar text.toList

theorem encode_inj {first second : String} (same : encode first = encode second) :
    first = second := by
  have decoded := (decode?_eq_some_iff (encode first) first).mpr rfl
  rw [(decode?_eq_some_iff (encode first) second).mpr same] at decoded
  exact (Option.some.inj decoded).symm

end SoundDevices.Text
