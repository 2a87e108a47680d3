import Mathlib.Data.List.Basic
import SoundDevices.Hint

set_option autoImplicit false

namespace SoundDevices.Hint

open Text

/-- One of the digits 0 to 9, and of no other script. -/
def IsAsciiDigit (c : Char) : Prop := '0' ≤ c ∧ c ≤ '9'

instance : DecidablePred IsAsciiDigit := fun _ => inferInstanceAs (Decidable (_ ∧ _))

theorem isDigit_iff (c : Char) : c.isDigit = true ↔ IsAsciiDigit c := by
  simp [Char.isDigit, IsAsciiDigit, Char.le_def]

inductive LeftOut : List Char → Prop
  | null : LeftOut "null".toList
  | sysdefault (rest : List Char) : LeftOut ("sysdefault:".toList ++ rest)
  | front (rest : List Char) : LeftOut ("front:".toList ++ rest)
  | surround (digits rest : List Char) (some : digits ≠ []) (ascii : ∀ c ∈ digits, IsAsciiDigit c) :
      LeftOut ("surround".toList ++ digits ++ ':' :: rest)

/-- What such a name has before its first colon, if it has one. -/
inductive AliasStem : List Char → Prop
  | sysdefault : AliasStem "sysdefault".toList
  | front : AliasStem "front".toList
  | surround (digits : List Char) (some : digits ≠ []) (ascii : ∀ c ∈ digits, IsAsciiDigit c) :
      AliasStem ("surround".toList ++ digits)

theorem colon_notMem_of_digits {digits : List Char} (ascii : ∀ c ∈ digits, IsAsciiDigit c) :
    ':' ∉ digits := by
  intro member
  exact absurd (ascii ':' member) (by decide)

theorem AliasStem.colon_notMem {stem : List Char} (isStem : AliasStem stem) : ':' ∉ stem := by
  cases isStem with
  | sysdefault => decide
  | front => decide
  | surround digits some ascii => simp [colon_notMem_of_digits ascii]

theorem isSurroundAlias_iff (name : List Char) :
    isSurroundAlias name = true ↔
      ∃ digits rest, digits ≠ [] ∧ (∀ c ∈ digits, IsAsciiDigit c) ∧
        name = "surround".toList ++ digits ++ ':' :: rest := by
  constructor
  · intro accepted
    cases found : after? "surround".toList name with
    | none =>
      rw [isSurroundAlias, found] at accepted
      exact nomatch accepted
    | some rest =>
      rw [isSurroundAlias, found] at accepted
      obtain ⟨some, colon⟩ := Bool.and_eq_true_iff.mp accepted
      obtain ⟨tail, behind⟩ := List.head?_eq_some_iff.mp (beq_iff_eq.mp colon)
      refine ⟨rest.takeWhile Char.isDigit, tail, by simpa using some, ?_, ?_⟩
      · intro c member
        exact (isDigit_iff c).mp (List.all_eq_true.mp List.all_takeWhile c member)
      · rw [List.append_assoc, ← behind, List.takeWhile_append_dropWhile]
        exact eq_append_of_after? found
  · rintro ⟨digits, rest, some, ascii, rfl⟩
    have digit : ∀ c ∈ digits, c.isDigit = true := fun c member =>
      (isDigit_iff c).mpr (ascii c member)
    -- the colon is no digit, so that the run of digits ends before it
    have run : (digits ++ ':' :: rest).takeWhile Char.isDigit = digits := by
      rw [List.takeWhile_append_of_pos digit, List.takeWhile_cons_of_neg (by decide),
        List.append_nil]
    have behind : (digits ++ ':' :: rest).dropWhile Char.isDigit = ':' :: rest := by
      rw [List.dropWhile_append_of_pos digit, List.dropWhile_cons_of_neg (by decide)]
    rw [isSurroundAlias, List.append_assoc, after?_append]
    simp [run, behind, some]

/-- The names that a sweep leaves out are those of the grammar. -/
theorem isExcludedName_iff (name : String) :
    isExcludedName name = true ↔ LeftOut name.toList := by
  have alternatives : isExcludedName name = true ↔
      name.toList = "null".toList ∨ "sysdefault:".toList <+: name.toList ∨
        "front:".toList <+: name.toList ∨ isSurroundAlias name.toList = true := by
    simp [isExcludedName, List.isPrefixOf_iff_prefix, or_assoc]
  rw [alternatives, isSurroundAlias_iff]
  generalize name.toList = text
  constructor
  · rintro (rfl | ⟨rest, rfl⟩ | ⟨rest, rfl⟩ | ⟨digits, rest, some, ascii, rfl⟩)
    · exact .null
    · exact .sysdefault rest
    · exact .front rest
    · exact .surround digits rest some ascii
  · intro leftOut
    cases leftOut with
    | null => exact Or.inl rfl
    | sysdefault rest => exact Or.inr (Or.inl (List.prefix_append _ rest))
    | front rest => exact Or.inr (Or.inr (Or.inl (List.prefix_append _ rest)))
    | surround digits rest some ascii =>
      exact Or.inr (Or.inr (Or.inr ⟨digits, rest, some, ascii, rfl⟩))

theorem isExcludedName_eq_false_iff (name : String) :
    isExcludedName name = false ↔ ¬LeftOut name.toList := by
  rw [← isExcludedName_iff, Bool.not_eq_true]

/-- A name is left out if it is the null sink or goes on from an alias stem with a colon. -/
theorem leftOut_iff (name : List Char) :
    LeftOut name ↔ name = "null".toList ∨
      ∃ stem rest, AliasStem stem ∧ name = stem ++ ':' :: rest := by
  constructor
  · intro leftOut
    cases leftOut with
    | null => exact Or.inl rfl
    | sysdefault rest => exact Or.inr ⟨_, rest, .sysdefault, rfl⟩
    | front rest => exact Or.inr ⟨_, rest, .front, rfl⟩
    | surround digits rest some ascii => exact Or.inr ⟨_, rest, .surround digits some ascii, rfl⟩
  · rintro (rfl | ⟨stem, rest, isStem, rfl⟩)
    · exact .null
    · cases isStem with
      | sysdefault => exact .sysdefault rest
      | front => exact .front rest
      | surround digits some ascii => exact .surround digits rest some ascii

theorem takeWhile_stem {stem : List Char} (rest : List Char) (first : ':' ∉ stem) :
    (stem ++ ':' :: rest).takeWhile (· != ':') = stem := by
  have others : ∀ c ∈ stem, (c != ':') = true := by
    intro c member
    exact bne_iff_ne.mpr fun colon => first (colon ▸ member)
  rw [List.takeWhile_append_of_pos others, List.takeWhile_cons_of_neg (by decide), List.append_nil]

/-- Where a name has a colon, what stands before the first one decides. -/
theorem leftOut_append_iff {stem : List Char} (rest : List Char) (first : ':' ∉ stem) :
    LeftOut (stem ++ ':' :: rest) ↔ AliasStem stem := by
  rw [leftOut_iff]
  constructor
  · rintro (null | ⟨other, tail, isStem, same⟩)
    · have colon : ':' ∈ "null".toList := null ▸ by simp
      exact absurd colon (by decide)
    · have stems := congrArg (List.takeWhile (· != ':')) same
      rw [takeWhile_stem rest first, takeWhile_stem tail isStem.colon_notMem] at stems
      rwa [stems]
  · exact fun isStem => Or.inr ⟨stem, rest, isStem, rfl⟩

theorem leftOut_iff_of_notMem {name : List Char} (none : ':' ∉ name) :
    LeftOut name ↔ name = "null".toList := by
  rw [leftOut_iff]
  constructor
  · rintro (null | ⟨stem, rest, -, rfl⟩)
    · exact null
    · exact absurd none (by simp)
  · exact Or.inl

theorem LeftOut.append {name : List Char} (leftOut : LeftOut name) (other : name ≠ "null".toList)
    (more : List Char) : LeftOut (name ++ more) := by
  rcases (leftOut_iff name).mp leftOut with null | ⟨stem, rest, isStem, rfl⟩
  · exact absurd null other
  · rw [List.append_assoc, List.cons_append]
    exact (leftOut_append_iff (rest ++ more) isStem.colon_notMem).mpr isStem

theorem not_aliasStem_default : ¬AliasStem "default".toList := by
  intro isStem
  generalize same : "default".toList = stem at isStem
  cases isStem with
  | sysdefault => exact absurd same (by decide)
  | front => exact absurd same (by decide)
  | surround digits some ascii => simp at same

/-- Excluded names follow their grammar. A name is left out exactly if it is the `null` sink, goes
on from `sysdefault:` or `front:`, or from `surround`, some digits and a colon; so no name of a
default is. Where it has a colon, what stands before the first one decides, whatever follows, and so
a longer name is left out with a shorter one, unless that is the sink. -/
theorem exclusion_follows_the_grammar (name : String) :
    (isExcludedName name = true ↔ LeftOut name.toList) ∧
    (isDefaultName name = true → isExcludedName name = false) ∧
    (isExcludedName name = true → name ≠ "null" →
      ∀ more, isExcludedName (name ++ more) = true) ∧
    (∀ stem rest, ':' ∉ stem → name.toList = stem ++ ':' :: rest →
      (isExcludedName name = true ↔ AliasStem stem)) ∧
    (':' ∉ name.toList → (isExcludedName name = true ↔ name = "null")) := by
  refine ⟨isExcludedName_iff name, ?_, ?_, ?_, ?_⟩
  · intro isDefault
    obtain ⟨rest, starts⟩ := List.isPrefixOf_iff_prefix.mp isDefault
    rw [Bool.eq_false_iff, ne_eq, isExcludedName_iff, ← starts]
    exact fun leftOut => not_aliasStem_default ((leftOut_append_iff rest (by decide)).mp leftOut)
  · intro excluded other more
    rw [isExcludedName_iff] at excluded
    rw [isExcludedName_iff, String.toList_append]
    exact excluded.append (fun same => other (String.toList_inj.mp same)) more.toList
  · intro stem rest first split
    rw [isExcludedName_iff, split, leftOut_append_iff rest first]
  · intro none
    rw [isExcludedName_iff, leftOut_iff_of_notMem none, String.toList_inj]

/-- A name of six speakers is left out, also with a second colon behind; a default name is not. -/
theorem exclusion_follows_the_grammar_surround :
    isExcludedName "surround51:CARD=PCH" = true ∧
      isExcludedName ("surround51:CARD=PCH" ++ ":DEV=0") = true ∧
      isDefaultName "default:CARD=PCH" = true ∧ isExcludedName "default:CARD=PCH" = false := by
  obtain ⟨-, -, longer, stem, -⟩ := exclusion_follows_the_grammar "surround51:CARD=PCH"
  have digits : ∀ c ∈ ['5', '1'], IsAsciiDigit c :=
    List.forall_mem_cons.mpr ⟨by decide, List.forall_mem_singleton.mpr (by decide)⟩
  have excluded : isExcludedName "surround51:CARD=PCH" = true :=
    (stem "surround51".toList "CARD=PCH".toList (by decide) rfl).mpr
      (.surround ['5', '1'] (by decide) digits)
  have isDefault : isDefaultName "default:CARD=PCH" = true := by decide
  exact ⟨excluded, longer excluded (by decide) ":DEV=0", isDefault,
    (exclusion_follows_the_grammar "default:CARD=PCH").2.1 isDefault⟩

end SoundDevices.Hint
