import Mathlib.Data.List.DropRight
import Mathlib.Data.Nat.Digits.Defs
import SoundDevices.Config.Watch
import SoundDevices.Proofs.TextBytes

set_option autoImplicit false

namespace SoundDevices

namespace Text

/-- The word stands in the text, and around it there are blanks or nothing. -/
def IsBetweenBlanks (text word : List Char) : Prop :=
  ∃ before after, text = before ++ word ++ after ∧
    (∀ c ∈ before, isBlank c = true) ∧ ∀ c ∈ after, isBlank c = true

theorem trim_eq (text : List Char) :
    trim text = (text.dropWhile isBlank).rdropWhile isBlank := rfl

theorem isBetweenBlanks_trim (text : List Char) : IsBetweenBlanks text (trim text) := by
  refine ⟨text.takeWhile isBlank, (text.dropWhile isBlank).rtakeWhile isBlank, ?_, ?_, ?_⟩
  · rw [trim_eq, List.append_assoc, List.rdropWhile_append_rtakeWhile,
      List.takeWhile_append_dropWhile]
  · exact fun c => List.mem_takeWhile_imp
  · exact fun c => List.mem_rtakeWhile_imp

/-- A word without blanks is what is left of the text at whose ends the blanks are dropped. -/
theorem IsBetweenBlanks.trim_eq {text word : List Char} (between : IsBetweenBlanks text word)
    (solid : ∀ c ∈ word, isBlank c = false) : trim text = word := by
  obtain ⟨before, after, rfl, blankBefore, blankAfter⟩ := between
  rw [Text.trim_eq, List.append_assoc, List.dropWhile_append_of_pos blankBefore]
  cases word with
  | nil =>
    rw [List.nil_append, List.dropWhile_eq_nil_iff.mpr blankAfter, List.rdropWhile_nil]
  | cons c rest =>
    have start : isBlank c = false := solid c List.mem_cons_self
    rw [List.cons_append, List.dropWhile_cons_of_neg (by simp [start]), ← List.cons_append,
      List.rdropWhile, List.reverse_append,
      List.dropWhile_append_of_pos (by simpa using blankAfter)]
    have kept : (c :: rest).rdropWhile isBlank = c :: rest := by
      rw [List.rdropWhile_eq_self_iff]
      intro nonempty
      simp [solid _ (List.getLast_mem nonempty)]
    exact kept

theorem isAllBlank_eq_false_iff (text : List Char) :
    isAllBlank text = false ↔ ∃ c ∈ text, isBlank c = false := by
  simp [isAllBlank]

/-- A text with a word in it that is not blank is not blank itself. -/
theorem IsBetweenBlanks.isAllBlank {text word : List Char} (between : IsBetweenBlanks text word)
    (letters : word ≠ []) (solid : ∀ c ∈ word, isBlank c = false) : isAllBlank text = false := by
  obtain ⟨before, after, rfl, -, -⟩ := between
  obtain ⟨c, member⟩ := List.exists_mem_of_ne_nil word letters
  rw [isAllBlank_eq_false_iff]
  exact ⟨c, by simp [member], solid c member⟩

theorem toNat_toLower (c : Char) :
    c.toLower.toNat = if 65 ≤ c.toNat ∧ c.toNat ≤ 90 then c.toNat + 32 else c.toNat := by
  by_cases upper : c.val ≥ 'A'.val ∧ c.val ≤ 'Z'.val
  · have range : 65 ≤ c.toNat ∧ c.toNat ≤ 90 := upper
    have folded : c.toLower = _ := dif_pos upper
    have sum : (c.val + 32).toNat = (c.toNat + 32) % 2 ^ 32 := UInt32.toNat_add c.val 32
    rw [folded, if_pos range]
    exact sum.trans (Nat.mod_eq_of_lt (by omega))
  · have kept : c.toLower = c := dif_neg upper
    rw [kept]
    exact (if_neg upper).symm

/-- No letter that is folded is a blank, nor does it become one. -/
theorem isBlank_toLower (c : Char) : isBlank c.toLower = isBlank c := by
  rw [Bool.eq_iff_iff]
  simp [isBlank, toNat_toLower]
  split_ifs <;> omega

end Text

namespace BackendKind

open Text

theorem ofName?_eq_some_iff (text : String) (kind : BackendKind) :
    ofName? text = some kind ↔ text = kind.name := by
  constructor
  · intro found
    have same := List.find?_some found
    exact (beq_iff_eq.mp same).symm
  · rintro rfl
    exact ofName?_name kind

theorem isBlank_of_mem_name (kind : BackendKind) :
    ∀ c ∈ kind.name.toList, isBlank c = false := by
  have solid : kind.name.toList.all (fun c => !isBlank c) = true := by
    cases kind <;> rfl
  simpa using solid

theorem isBlank_of_lower_eq {kind : BackendKind} {word : List Char}
    (named : lower word = kind.name.toList) : ∀ c ∈ word, isBlank c = false := by
  intro c member
  rw [← isBlank_toLower]
  exact kind.isBlank_of_mem_name c.toLower (named ▸ List.mem_map_of_mem member)

end BackendKind

open Text

/-- The text is the name of the backend, in letters of either case and between blanks. -/
def IsBackendText (text : String) (kind : BackendKind) : Prop :=
  ∃ word, IsBetweenBlanks text.toList word ∧ lower word = kind.name.toList

theorem parse?_eq_some_iff (text : String) (kind : BackendKind) :
    BackendKind.parse? text = some kind ↔ IsBackendText text kind := by
  rw [BackendKind.parse?, BackendKind.ofName?_eq_some_iff, ← String.toList_inj,
    String.toList_ofList]
  constructor
  · exact fun named => ⟨_, isBetweenBlanks_trim text.toList, named⟩
  · rintro ⟨word, between, named⟩
    rw [between.trim_eq (BackendKind.isBlank_of_lower_eq named), named]

theorem IsBackendText.isAllBlank {text : String} {kind : BackendKind}
    (named : IsBackendText text kind) : isAllBlank text.toList = false := by
  obtain ⟨word, between, named⟩ := named
  refine between.isAllBlank ?_ (BackendKind.isBlank_of_lower_eq named)
  rintro rfl
  cases kind <;> exact absurd named (by decide)

/-- The word is a rate in decimal: a plus sign or nothing, and behind it one digit or more, which
are worth what their places tell. -/
def SpellsRate (word : List Char) (rate : UInt32) : Prop :=
  ∃ sign digits, (sign = [] ∨ sign = ['+']) ∧ digits ≠ [] ∧ (∀ d ∈ digits, d < 10) ∧
    word = sign ++ digits.map Nat.digitChar ∧ rate.toNat = Nat.ofDigits 10 digits.reverse

theorem exists_digitChar_of_isDigit {c : Char} (digit : c.isDigit = true) :
    ∃ d < 10, c = d.digitChar := by
  have range : 48 ≤ c.toNat ∧ c.toNat ≤ 57 := Char.isDigit_iff_toNat.mp digit
  have small : c.toNat - 48 < 10 := by omega
  refine ⟨c.toNat - 48, small, ?_⟩
  rw [← Char.toNat_inj, Nat.toNat_digitChar_of_lt_ten small]
  omega

theorem exists_digits_of_isDigit {chars : List Char} (digits : ∀ c ∈ chars, c.isDigit = true) :
    ∃ values : List Nat, (∀ d ∈ values, d < 10) ∧ chars = values.map Nat.digitChar := by
  induction chars with
  | nil => exact ⟨[], by simp, rfl⟩
  | cons c chars ih =>
    rw [List.forall_mem_cons] at digits
    obtain ⟨d, small, rfl⟩ := exists_digitChar_of_isDigit digits.1
    obtain ⟨values, smaller, rfl⟩ := ih digits.2
    exact ⟨d :: values, List.forall_mem_cons.mpr ⟨small, smaller⟩, rfl⟩

/-- Reading digit by digit comes to the value of the digits by their places. -/
theorem foldl_digitChar {digits : List Nat} (small : ∀ d ∈ digits, d < 10) (start : Nat) :
    (digits.map Nat.digitChar).foldl (fun n c => n * 10 + (c.toNat - '0'.toNat)) start =
      start * 10 ^ digits.length + Nat.ofDigits 10 digits.reverse := by
  induction digits generalizing start with
  | nil => simp
  | cons d digits ih =>
    rw [List.forall_mem_cons] at small
    have value : d.digitChar.toNat - '0'.toNat = d := Nat.toNat_digitChar_sub_48_of_lt_ten small.1
    rw [List.map_cons, List.foldl_cons, value, ih small.2, Nat.ofDigits_reverse_cons,
      List.length_cons]
    ring

def unsigned : List Char → List Char
  | '+' :: rest => rest
  | word => word

def digitsRate? (digits : List Char) : Option UInt32 :=
  if digits.isEmpty || !digits.all Char.isDigit then none
  else
    let value := digits.foldl (fun n c => n * 10 + (c.toNat - '0'.toNat)) 0
    if value < UInt32.size then some (UInt32.ofNat value) else none

theorem parseRate?_eq (word : List Char) : parseRate? word = digitsRate? (unsigned word) := rfl

theorem exists_sign (word : List Char) :
    ∃ sign, (sign = [] ∨ sign = ['+']) ∧ word = sign ++ unsigned word := by
  unfold unsigned
  split
  · exact ⟨['+'], Or.inr rfl, rfl⟩
  · exact ⟨[], Or.inl rfl, rfl⟩

theorem unsigned_append {sign : List Char} (isSign : sign = [] ∨ sign = ['+']) (digits : List Nat) :
    unsigned (sign ++ digits.map Nat.digitChar) = digits.map Nat.digitChar := by
  rcases isSign with rfl | rfl
  · cases digits with
    | nil => rfl
    | cons d digits =>
      have other : d.digitChar ≠ '+' := Nat.digitChar_ne '+' rfl
      rw [List.nil_append, List.map_cons, unsigned]
      simp [other]
  · rfl

theorem digitsRate?_map (digits : List Nat) (nonempty : digits ≠ [])
    (small : ∀ d ∈ digits, d < 10) :
    digitsRate? (digits.map Nat.digitChar) =
      if Nat.ofDigits 10 digits.reverse < UInt32.size then
        some (UInt32.ofNat (Nat.ofDigits 10 digits.reverse))
      else none := by
  have ascii : (digits.map Nat.digitChar).all Char.isDigit = true := by
    simpa [Nat.isDigit_digitChar] using small
  have isEmpty : (digits.map Nat.digitChar).isEmpty = false := by simpa using nonempty
  have value := foldl_digitChar small 0
  rw [Nat.zero_mul, Nat.zero_add] at value
  simp only [digitsRate?, ascii, isEmpty, value, Bool.not_true, Bool.or_self, Bool.false_eq_true,
    ↓reduceIte]

theorem digitsRate?_eq_some_iff (chars : List Char) (rate : UInt32) :
    digitsRate? chars = some rate ↔ ∃ digits, digits ≠ [] ∧ (∀ d ∈ digits, d < 10) ∧
      chars = digits.map Nat.digitChar ∧ rate.toNat = Nat.ofDigits 10 digits.reverse := by
  constructor
  · intro read
    have shape : chars ≠ [] ∧ ∀ c ∈ chars, c.isDigit = true := by
      by_contra other
      rw [digitsRate?, if_pos (by simpa [or_iff_not_imp_left] using other)] at read
      exact nomatch read
    obtain ⟨digits, small, rfl⟩ := exists_digits_of_isDigit shape.2
    have some : digits ≠ [] := by simpa using shape.1
    rw [digitsRate?_map digits some small] at read
    split at read
    · next fits =>
      obtain rfl := Option.some.inj read
      exact ⟨digits, some, small, rfl, UInt32.toNat_ofNat_of_lt fits⟩
    · exact nomatch read
  · rintro ⟨digits, some, small, rfl, value⟩
    rw [digitsRate?_map digits some small, ← value, if_pos rate.toNat_lt_size, UInt32.ofNat_toNat]

theorem parseRate?_eq_some_iff (word : List Char) (rate : UInt32) :
    parseRate? word = some rate ↔ SpellsRate word rate := by
  rw [parseRate?_eq, digitsRate?_eq_some_iff]
  constructor
  · rintro ⟨digits, some, small, read, value⟩
    obtain ⟨sign, isSign, split⟩ := exists_sign word
    exact ⟨sign, digits, isSign, some, small, read ▸ split, value⟩
  · rintro ⟨sign, digits, isSign, some, small, rfl, value⟩
    exact ⟨digits, some, small, unsigned_append isSign digits, value⟩

theorem SpellsRate.isBlank {word : List Char} {rate : UInt32} (spells : SpellsRate word rate) :
    ∀ c ∈ word, isBlank c = false := by
  obtain ⟨sign, digits, isSign, -, small, rfl, -⟩ := spells
  intro c member
  rcases List.mem_append.mp member with inSign | inDigits
  · rcases isSign with rfl | rfl
    · exact nomatch inSign
    · rw [List.mem_singleton.mp inSign]
      decide
  · obtain ⟨d, among, rfl⟩ := List.mem_map.mp inDigits
    have number := Nat.toNat_digitChar_of_lt_ten (small d among)
    have bound := small d among
    simp [Text.isBlank, number]
    omega

/-- The text is a rate between blanks. -/
def IsRateText (text : String) (rate : UInt32) : Prop :=
  ∃ word, IsBetweenBlanks text.toList word ∧ SpellsRate word rate

theorem parseRate?_trim_eq_some_iff (text : String) (rate : UInt32) :
    parseRate? (trim text.toList) = some rate ↔ IsRateText text rate := by
  rw [parseRate?_eq_some_iff]
  constructor
  · exact fun spells => ⟨_, isBetweenBlanks_trim text.toList, spells⟩
  · rintro ⟨word, between, spells⟩
    rwa [between.trim_eq spells.isBlank]

theorem IsRateText.isAllBlank {text : String} {rate : UInt32} (isRate : IsRateText text rate) :
    isAllBlank text.toList = false := by
  obtain ⟨word, between, spells⟩ := isRate
  refine between.isAllBlank ?_ spells.isBlank
  obtain ⟨sign, digits, -, some, -, rfl, -⟩ := spells
  simp [some]

/-- The text is a folder: itself, if it is not blank. -/
def IsFolderText (text folder : String) : Prop :=
  folder = text ∧ isAllBlank text.toList = false

namespace Environment

variable {α : Type}

/-- The variable has the bytes of a text that means the value. -/
def Says (env : Environment) (key : String) (means : String → α → Prop) (value : α) : Prop :=
  ∃ text, env key = some (encode text) ∧ means text value

theorem value?_eq_some_iff (env : Environment) (key text : String) :
    env.value? key = some text ↔ env key = some (encode text) ∧ isAllBlank text.toList = false := by
  rw [value?, Option.filter_eq_some_iff, text?, Option.bind_eq_some_iff, Bool.not_eq_true']
  refine and_congr_left fun _ => ?_
  constructor
  · rintro ⟨bytes, set, decoded⟩
    rwa [← (decode?_eq_some_iff bytes text).mp decoded]
  · exact fun set => ⟨_, set, (decode?_eq_some_iff _ text).mpr rfl⟩

/-- A variable is read as it says, if its texts are read as they are meant and none of those that
mean something is blank. -/
theorem value?_bind_eq_some_iff {read : String → Option α} {means : String → α → Prop}
    (reads : ∀ text value, isAllBlank text.toList = false →
      (read text = some value ↔ means text value))
    (solid : ∀ text value, means text value → isAllBlank text.toList = false)
    (env : Environment) (key : String) (value : α) :
    (env.value? key).bind read = some value ↔ env.Says key means value := by
  rw [Option.bind_eq_some_iff]
  constructor
  · rintro ⟨text, found, understood⟩
    obtain ⟨set, letters⟩ := (env.value?_eq_some_iff key text).mp found
    exact ⟨text, set, (reads text value letters).mp understood⟩
  · rintro ⟨text, set, meant⟩
    have letters := solid text value meant
    exact ⟨text, (env.value?_eq_some_iff key text).mpr ⟨set, letters⟩,
      (reads text value letters).mpr meant⟩

theorem backend_eq_some_iff (env : Environment) (kind : BackendKind) :
    (env.value? backendKey).bind BackendKind.parse? = some kind ↔
      env.Says backendKey IsBackendText kind :=
  value?_bind_eq_some_iff (fun text kind _ => parse?_eq_some_iff text kind)
    (fun _ _ => IsBackendText.isAllBlank) env backendKey kind

theorem watchDir_eq_some_iff (env : Environment) (folder : String) :
    env.value? watchDirKey = some folder ↔ env.Says watchDirKey IsFolderText folder := by
  rw [← Option.bind_fun_some (env.value? watchDirKey)]
  refine value?_bind_eq_some_iff (fun text folder letters => ?_) (fun _ _ isFolder => isFolder.2)
    env watchDirKey folder
  rw [Option.some.injEq, IsFolderText, and_iff_left letters, eq_comm]

theorem preferredRate_eq_some_iff (env : Environment) (rate : UInt32) :
    ((env.value? sampleRateKey).bind fun text => parseRate? (trim text.toList)) = some rate ↔
      env.Says sampleRateKey IsRateText rate :=
  value?_bind_eq_some_iff (fun text rate _ => parseRate?_trim_eq_some_iff text rate)
    (fun _ _ => IsRateText.isAllBlank) env sampleRateKey rate

end Environment

end SoundDevices
