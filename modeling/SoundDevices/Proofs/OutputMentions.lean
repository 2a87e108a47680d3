import SoundDevices.Proofs.HardwarePaths

set_option autoImplicit false

namespace SoundDevices

namespace Text

/-- The text spells the word from a position on, in whatever case; the word itself is in lower
case. -/
def SpellsAt (word text : List Char) (position : Nat) : Prop :=
  ∀ (i : Nat) (within : i < word.length), text[position + i]?.map Char.toLower = some word[i]

theorem exists_spellsAt_iff {word : List Char} (text : List Char) :
    (∃ position, SpellsAt word text position) ↔ word <:+: lower text := by
  rw [List.infix_iff_getElem?]
  simp only [lower, List.getElem?_map, List.length_map]
  constructor
  · rintro ⟨position, spells⟩
    rcases Nat.eq_zero_or_pos word.length with empty | some
    · exact ⟨0, by omega, fun i within => by omega⟩
    · -- the last letter is within the text
      obtain ⟨c, last, -⟩ := Option.map_eq_some_iff.mp (spells (word.length - 1) (by omega))
      have bound := (List.getElem?_eq_some_iff.mp last).1
      refine ⟨position, by omega, fun i within => ?_⟩
      rw [Nat.add_comm, spells i within]
  · rintro ⟨position, -, spells⟩
    refine ⟨position, fun i within => ?_⟩
    rw [Nat.add_comm, spells i within]

/-- A divider has characters, and none of them is a letter of the word. -/
def Divides (word divider : List Char) : Prop :=
  divider ≠ [] ∧ ∀ c ∈ divider, c.toLower ∉ word

/-- A word stands before or behind a divider, and never across. -/
theorem spellsAt_append_iff {word divider : List Char} (letters : word ≠ [])
    (divides : Divides word divider) (first second : List Char) (position : Nat) :
    SpellsAt word (first ++ divider ++ second) position ↔
      SpellsAt word first position ∨ first.length + divider.length ≤ position ∧
        SpellsAt word second (position - (first.length + divider.length)) := by
  have some := List.length_pos_iff.mpr letters
  have wide := List.length_pos_iff.mpr divides.1
  constructor
  · intro spells
    have outside (i : Nat) (within : i < word.length) :
        position + i < first.length ∨ first.length + divider.length ≤ position + i := by
      by_contra inside
      obtain ⟨c, stands, lowered⟩ := Option.map_eq_some_iff.mp (spells i within)
      rw [List.getElem?_append_left (by simp; omega), List.getElem?_append_right (by omega)]
        at stands
      refine divides.2 c (List.mem_of_getElem? stands) ?_
      rw [lowered]
      exact List.getElem_mem within
    by_cases before : position < first.length
    · -- a word that begins before the divider does not reach it
      refine Or.inl fun i within => ?_
      have short : position + i < first.length := by
        have start := outside (first.length - position)
        have letter := outside i within
        omega
      rw [← spells i within, List.append_assoc, List.getElem?_append_left short]
    · have behind : first.length + divider.length ≤ position := by
        have start := outside 0 some
        omega
      refine Or.inr ⟨behind, fun i within => ?_⟩
      rw [← spells i within, List.getElem?_append_right (by simp; omega)]
      congr 2
      simp
      omega
  · rintro (spells | ⟨behind, spells⟩) i within
    · obtain ⟨c, stands, -⟩ := Option.map_eq_some_iff.mp (spells i within)
      have bound := (List.getElem?_eq_some_iff.mp stands).1
      rw [List.append_assoc, List.getElem?_append_left bound, spells i within]
    · rw [← spells i within, List.getElem?_append_right (by simp; omega)]
      congr 2
      simp
      omega

end Text

namespace Hint

open Text (SpellsAt Divides)

abbrev outputWord : List Char := "output".toList

/-- The text is a description in which the first line end, if there is one, is written as a
divider. -/
def IsDividedBy (divider raw text : List Char) : Prop :=
  (firstLine raw = raw ∧ laterLines raw = [] ∧ text = raw) ∨
    text = firstLine raw ++ divider ++ laterLines raw

theorem isDividedBy_cons {divider raw text : List Char} {c : Char} (other : c ≠ '\n')
    (divided : IsDividedBy divider raw text) : IsDividedBy divider (c :: raw) (c :: text) := by
  have first : firstLine (c :: raw) = c :: firstLine raw := by simp [firstLine, other]
  have later : laterLines (c :: raw) = laterLines raw := by simp [laterLines, other]
  unfold IsDividedBy
  rw [first, later]
  simpa [IsDividedBy] using divided

theorem isDividedBy_lineEnd (raw : List Char) : IsDividedBy ['\n'] raw raw := by
  induction raw with
  | nil => exact Or.inl ⟨rfl, rfl, rfl⟩
  | cons c rest ih =>
    by_cases lineEnd : c = '\n'
    · subst lineEnd
      exact Or.inr rfl
    · exact isDividedBy_cons lineEnd ih

theorem isDividedBy_joinFirstLine (raw : List Char) :
    IsDividedBy [':', ' '] raw (joinFirstLine raw) := by
  induction raw with
  | nil => exact Or.inl ⟨rfl, rfl, rfl⟩
  | cons c rest ih =>
    by_cases lineEnd : c = '\n'
    · subst lineEnd
      exact Or.inr rfl
    · rw [joinFirstLine_cons c rest lineEnd]
      exact isDividedBy_cons lineEnd ih

section

variable {divider raw text : List Char}

/-- A divider without a letter of the word neither makes it nor breaks it. -/
theorem IsDividedBy.spellsAt_iff (divided : IsDividedBy divider raw text)
    (divides : Divides outputWord divider) (position : Nat) :
    SpellsAt outputWord text position ↔
      SpellsAt outputWord (firstLine raw) position ∨
        (firstLine raw).length + divider.length ≤ position ∧
          SpellsAt outputWord (laterLines raw)
            (position - ((firstLine raw).length + divider.length)) := by
  rcases divided with ⟨single, none, rfl⟩ | rfl
  · -- a single line has no second part in which the word could stand
    rw [single, none]
    refine ⟨Or.inl, ?_⟩
    rintro (spells | ⟨-, spells⟩)
    · exact spells
    · exact nomatch spells 0 (by decide)
  · exact Text.spellsAt_append_iff (by decide) divides (firstLine raw) (laterLines raw) position

theorem IsDividedBy.exists_spellsAt_iff (divided : IsDividedBy divider raw text)
    (divides : Divides outputWord divider) :
    (∃ position, SpellsAt outputWord text position) ↔
      (∃ position, SpellsAt outputWord (firstLine raw) position) ∨
        ∃ position, SpellsAt outputWord (laterLines raw) position := by
  simp only [divided.spellsAt_iff divides]
  constructor
  · rintro ⟨position, spells | ⟨-, spells⟩⟩
    · exact Or.inl ⟨position, spells⟩
    · exact Or.inr ⟨_, spells⟩
  · rintro (⟨position, spells⟩ | ⟨position, spells⟩)
    · exact ⟨position, Or.inl spells⟩
    · refine ⟨position + ((firstLine raw).length + divider.length), Or.inr ⟨by omega, ?_⟩⟩
      rwa [Nat.add_sub_cancel]

end

theorem mentionsOutput_iff (description : String) :
    mentionsOutput description = true ↔
      ∃ position, SpellsAt outputWord description.toList position := by
  rw [mentionsOutput, Text.occursIn_iff, Text.exists_spellsAt_iff]

/-- How the search of a description for an output compares before and after it is composed. -/
structure KeepsMentions (raw : String) : Prop where
  verdict : mentionsOutput (composeDescription raw) = mentionsOutput raw
  search : mentionsOutput raw = true ↔ ∃ position, SpellsAt outputWord raw.toList position
  parts : mentionsOutput (composeDescription raw) = true ↔
    (∃ position, SpellsAt outputWord (firstLine raw.toList) position) ∨
      ∃ position, SpellsAt outputWord (laterLines raw.toList) position
  shown : ∀ position, SpellsAt outputWord (composeDescription raw).toList position ↔
    SpellsAt outputWord (firstLine raw.toList) position ∨
      (firstLine raw.toList).length + 2 ≤ position ∧
        SpellsAt outputWord (laterLines raw.toList)
          (position - ((firstLine raw.toList).length + 2))
  carried : ∀ position, SpellsAt outputWord raw.toList position ↔
    SpellsAt outputWord (firstLine raw.toList) position ∨
      (firstLine raw.toList).length + 1 ≤ position ∧
        SpellsAt outputWord (laterLines raw.toList)
          (position - ((firstLine raw.toList).length + 1))

theorem keepsMentions (raw : String) : KeepsMentions raw := by
  have carried := isDividedBy_lineEnd raw.toList
  have shown := isDividedBy_joinFirstLine raw.toList
  have lineEnd : Divides outputWord ['\n'] := ⟨by decide, by simp [outputWord]⟩
  have colon : Divides outputWord [':', ' '] := ⟨by decide, by simp [outputWord]⟩
  have parts : mentionsOutput (composeDescription raw) = true ↔
      (∃ position, SpellsAt outputWord (firstLine raw.toList) position) ∨
        ∃ position, SpellsAt outputWord (laterLines raw.toList) position := by
    rw [mentionsOutput_iff, composeDescription, String.toList_ofList,
      shown.exists_spellsAt_iff colon]
  constructor
  case verdict =>
    rw [Bool.eq_iff_iff, parts, mentionsOutput_iff,
      carried.exists_spellsAt_iff lineEnd]
  case search => exact mentionsOutput_iff raw
  case parts => exact parts
  case shown =>
    intro position
    rw [composeDescription, String.toList_ofList]
    exact shown.spellsAt_iff colon position
  case carried => exact carried.spellsAt_iff lineEnd

def couldRecord (hint : Hint) : Bool :=
  hint.name.any (fun name => !isExcludedName name) && hint.purposes.contains .input

/-- The hint is kept among the inputs when some description of it is searched for an output. -/
def keptAsInput (described : Hint → String) (hint : Hint) : Bool :=
  hint.couldRecord && !mentionsOutput (described hint)

end Hint

namespace Sweep

open Hint (keptAsInput)

/-- A hint becomes an input if it is kept as one when the description shown is searched. -/
theorem name_hintDevice?_input (system : SoundSystem) (preferred : UInt32) (hint : Hint) :
    (hintDevice? system preferred .input hint).map (·.name) =
      if keptAsInput Hint.shownDescription hint then hint.name else none := by
  cases named : hint.name with
  | none => simp [hintDevice?, named]
  | some name =>
    have listed : IsListed hint name .input ↔ keptAsInput Hint.shownDescription hint = true := by
      rw [IsListed, ← mentionsOutput_iff_shownText, ← Hint.mem_purposes, ← Hint.isExcludedName_iff]
      simp [keptAsInput, Hint.couldRecord, named, and_assoc]
    by_cases kept : keptAsInput Hint.shownDescription hint = true
    · simp [hintDevice?, named, listed, kept]
    · simp [hintDevice?, named, listed, kept]

theorem names_hintDevices_input (system : SoundSystem) (preferred : UInt32) (hints : List Hint) :
    (hintDevices system preferred .input hints).map (·.name) =
      (hints.filter (keptAsInput Hint.shownDescription)).filterMap (·.name) := by
  rw [hintDevices, List.map_filterMap, List.filterMap_filter]
  exact List.filterMap_congr fun hint _ => name_hintDevice?_input system preferred hint

/-- Composing a description neither hides nor invents a mention of an output. The description shown
has one exactly if the one that the hint carries has it, in its first line or in what follows, and
no mention ever stands across the place where the two are joined. So the names on offer that a sweep
keeps among the inputs are those that a search of the descriptions as they are carried keeps. -/
theorem composing_keeps_mentions :
    (∀ raw, Hint.KeepsMentions raw) ∧
    ∀ (system : SoundSystem) (preferred : UInt32) (snapshot : Snapshot),
      enumerate system preferred = .ok snapshot →
        ∃ hints, system.pcmHints = .ok hints ∧
          hints.filter (keptAsInput Hint.shownDescription) =
            hints.filter (keptAsInput fun hint => hint.description.getD "") ∧
          ((snapshot.devices .input).filter (!·.isRaw)).map (·.name) =
            (hints.filter (keptAsInput fun hint => hint.description.getD "")).filterMap
              (·.name) := by
  refine ⟨Hint.keepsMentions, fun system preferred snapshot found => ?_⟩
  obtain ⟨hints, cards, offered, -, lists⟩ := list_of_enumerate found
  have kept : hints.filter (keptAsInput Hint.shownDescription) =
      hints.filter (keptAsInput fun hint => hint.description.getD "") := by
    refine List.filter_congr fun hint _ => ?_
    rw [keptAsInput, keptAsInput, Hint.shownDescription, (Hint.keepsMentions _).verdict]
  refine ⟨hints, offered, kept, ?_⟩
  rw [devices_of_list (lists .input), filter_not_isRaw, names_hintDevices_input, kept]

/-- A name whose description breaks the word at its line end, and one that has it behind. -/
def brokenWord : Inventory where
  hints := [⟨some "line", some "Line Out\nput", none⟩, ⟨some "hdmi", some "HDMI\nOUTPUT", none⟩]

/-- The word that is broken is not mended, so that the first name is kept among the inputs. -/
theorem composing_keeps_mentions_broken_word :
    ∃ snapshot, enumerate brokenWord.system 48000 = .ok snapshot ∧
      ((snapshot.devices .input).filter (!·.isRaw)).map (·.name) = ["line"] := by
  obtain ⟨snapshot, found⟩ : ∃ snapshot, enumerate brokenWord.system 48000 = .ok snapshot :=
    ⟨_, rfl⟩
  obtain ⟨hints, offered, -, kept⟩ := composing_keeps_mentions.2 _ _ snapshot found
  have names : brokenWord.system.pcmHints = .ok brokenWord.hints := rfl
  obtain rfl := Except.ok.inj (offered.symm.trans names)
  refine ⟨snapshot, found, ?_⟩
  rw [kept]
  decide +kernel

end Sweep

end SoundDevices
