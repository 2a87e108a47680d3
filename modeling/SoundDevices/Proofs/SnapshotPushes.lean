import SoundDevices.Proofs.SnapshotEntries

set_option autoImplicit false

namespace SoundDevices

/-- The entry puts a new default in the list of a purpose. -/
def MarksDefault (purpose : Purpose) (entry : Device × Bool) : Prop :=
  entry.1.purpose = purpose ∧ entry.2 = true

instance (purpose : Purpose) : DecidablePred (MarksDefault purpose) :=
  fun entry => inferInstanceAs (Decidable (entry.1.purpose = purpose ∧ entry.2 = true))

/-- The last of some entries with a property, and what is around it. -/
theorem exists_last_or_none {α : Type} (holds : α → Prop) [DecidablePred holds] (list : List α) :
    (∃ before x after, list = before ++ x :: after ∧ holds x ∧ ∀ y ∈ after, ¬holds y) ∨
      ∀ x ∈ list, ¬holds x := by
  -- The last in the list is the first in the reversed one.
  cases found : list.reverse.find? (holds ·) with
  | none => exact Or.inr (by simpa using found)
  | some x =>
    obtain ⟨holdsOfIt, after, before, split, others⟩ := List.find?_eq_some_iff_append.mp found
    refine Or.inl ⟨before.reverse, x, after.reverse, ?_, by simpa using holdsOfIt, ?_⟩
    · rw [← List.reverse_reverse list, split, List.reverse_append, List.reverse_cons,
        List.append_assoc, List.singleton_append]
    · simpa using others

namespace Snapshot

variable (entries : List (Device × Bool)) (purpose : Purpose)

theorem devices_ofEntries :
    (ofEntries entries).devices purpose =
      (entries.map Prod.fst).filter fun device => device.purpose = purpose := by
  rw [devices, list_ofEntries, DeviceList.devices_ofEntries, filed, List.filter_map]
  rfl

theorem count_ofEntries : (ofEntries entries).count purpose = (filed purpose entries).length := by
  rw [count, DeviceList.count, list_ofEntries, DeviceList.devices_ofEntries, List.length_map]

/-- A device stays where it was put. -/
theorem device?_ofEntries (before : List (Device × Bool)) (device : Device) (isDefault : Bool)
    (after : List (Device × Bool)) :
    (ofEntries (before ++ (device, isDefault) :: after)).device? device.purpose
      ((ofEntries before).push device isDefault).1 = some device := by
  have place : ((ofEntries before).push device isDefault).1 =
      ((filed device.purpose before).map Prod.fst).length := by
    rw [push, ← count, count_ofEntries, List.length_map]
  have own : filed device.purpose ((device, isDefault) :: after) =
      (device, isDefault) :: filed device.purpose after :=
    List.filter_cons_of_pos (decide_eq_true rfl)
  rw [device?, DeviceList.get?, list_ofEntries, DeviceList.devices_ofEntries, filed_append, own,
    List.map_append, List.map_cons, place, List.getElem?_append_right (Nat.le_refl _), Nat.sub_self]
  rfl

theorem defaultIndex_ofEntries_concat (entry : Device × Bool) :
    (ofEntries (entries ++ [entry])).defaultIndex purpose =
      if MarksDefault purpose entry then some ((ofEntries entries).count purpose)
      else (ofEntries entries).defaultIndex purpose := by
  obtain ⟨device, isDefault⟩ := entry
  rw [ofEntries_concat, defaultIndex, list_insert]
  by_cases own : device.purpose = purpose
  · cases isDefault with
    | true => rw [if_pos own, if_pos ⟨own, rfl⟩, DeviceList.defaultIndex_push_true]; rfl
    | false =>
      have unmarked : ¬MarksDefault purpose (device, false) := fun marked => nomatch marked.2
      rw [if_pos own, if_neg unmarked, DeviceList.defaultIndex_push_false]
      rfl
  · rw [if_neg own, if_neg fun marked => own marked.1]
    rfl

/-- What marks no default for a purpose leaves its default where it was. -/
theorem defaultIndex_ofEntries_append (after : List (Device × Bool))
    (unmarked : ∀ entry ∈ after, ¬MarksDefault purpose entry) :
    (ofEntries (entries ++ after)).defaultIndex purpose =
      (ofEntries entries).defaultIndex purpose := by
  induction after using List.reverseRecOn with
  | nil => rw [List.append_nil]
  | append_singleton after entry ih =>
    have last := unmarked entry (List.mem_append_right _ List.mem_cons_self)
    rw [← List.append_assoc, defaultIndex_ofEntries_concat, if_neg last]
    exact ih fun other among => unmarked other (List.mem_append_left _ among)

/-- The last device that was pushed as a default for its purpose is the default. -/
theorem defaultIndex_ofEntries_of_last (before : List (Device × Bool)) (device : Device)
    (after : List (Device × Bool))
    (unmarked : ∀ entry ∈ after, ¬MarksDefault device.purpose entry) :
    (ofEntries (before ++ (device, true) :: after)).defaultIndex device.purpose =
      some ((ofEntries before).push device true).1 := by
  rw [List.append_cons, defaultIndex_ofEntries_append _ _ after unmarked,
    defaultIndex_ofEntries_concat, if_pos ⟨rfl, rfl⟩]
  rfl

theorem defaultIndex_ofEntries_eq_none
    (unmarked : ∀ entry ∈ entries, ¬MarksDefault purpose entry) :
    (ofEntries entries).defaultIndex purpose = none := by
  have none := defaultIndex_ofEntries_append [] purpose entries unmarked
  rw [List.nil_append] at none
  rw [none]
  cases purpose <;> rfl

/-- The last entry that marks a default for a purpose, with its device and what is around it. -/
def IsLastDefault (before : List (Device × Bool)) (device : Device)
    (after : List (Device × Bool)) : Prop :=
  entries = before ++ (device, true) :: after ∧ device.purpose = purpose ∧
    ∀ entry ∈ after, ¬MarksDefault purpose entry

theorem isLastDefault_or_none :
    (∃ before device after, IsLastDefault entries purpose before device after) ∨
      ∀ entry ∈ entries, ¬MarksDefault purpose entry := by
  rcases exists_last_or_none (MarksDefault purpose) entries with
    ⟨before, ⟨device, isDefault⟩, after, split, ⟨own, rfl⟩, others⟩ | none
  · exact Or.inl ⟨before, device, after, split, own, others⟩
  · exact Or.inr none

variable {entries purpose}

theorem IsLastDefault.defaultIndex {before after : List (Device × Bool)} {device : Device}
    (last : IsLastDefault entries purpose before device after) :
    (ofEntries entries).defaultIndex purpose = some ((ofEntries before).push device true).1 := by
  obtain ⟨rfl, rfl, unmarked⟩ := last
  exact defaultIndex_ofEntries_of_last before device after unmarked

theorem IsLastDefault.defaultDevice {before after : List (Device × Bool)} {device : Device}
    (last : IsLastDefault entries purpose before device after) :
    (ofEntries entries).defaultDevice purpose = some device := by
  have index := last.defaultIndex
  obtain ⟨rfl, rfl, unmarked⟩ := last
  have stands := device?_ofEntries before device true after
  rw [Snapshot.defaultIndex] at index
  rw [Snapshot.defaultDevice, DeviceList.defaultDevice, index]
  exact stands

variable (entries purpose)

theorem defaultIndex_eq_some_iff (position : Nat) :
    (ofEntries entries).defaultIndex purpose = some position ↔
      ∃ before device after, IsLastDefault entries purpose before device after ∧
        position = ((ofEntries before).push device true).1 := by
  constructor
  · intro index
    rcases isLastDefault_or_none entries purpose with ⟨before, device, after, last⟩ | unmarked
    · rw [last.defaultIndex] at index
      exact ⟨before, device, after, last, (Option.some.inj index).symm⟩
    · rw [defaultIndex_ofEntries_eq_none entries purpose unmarked] at index
      exact nomatch index
  · rintro ⟨before, device, after, last, rfl⟩
    exact last.defaultIndex

theorem defaultIndex_eq_none_iff :
    (ofEntries entries).defaultIndex purpose = none ↔
      ∀ entry ∈ entries, ¬MarksDefault purpose entry := by
  constructor
  · intro none
    rcases isLastDefault_or_none entries purpose with ⟨before, device, after, last⟩ | unmarked
    · rw [last.defaultIndex] at none
      exact nomatch none
    · exact unmarked
  · exact defaultIndex_ofEntries_eq_none entries purpose

theorem defaultIndex_lt_count (position : Nat)
    (index : (ofEntries entries).defaultIndex purpose = some position) :
    position < (ofEntries entries).count purpose := by
  obtain ⟨before, device, after, ⟨rfl, rfl, -⟩, rfl⟩ :=
    (defaultIndex_eq_some_iff entries purpose position).mp index
  have stands := device?_ofEntries before device true after
  exact (List.getElem?_eq_some_iff.mp stands).1

theorem defaultDevice_eq_some_iff (device : Device) :
    (ofEntries entries).defaultDevice purpose = some device ↔
      ∃ before after, IsLastDefault entries purpose before device after := by
  constructor
  · intro found
    rcases isLastDefault_or_none entries purpose with ⟨before, other, after, last⟩ | unmarked
    · rw [last.defaultDevice] at found
      obtain rfl := Option.some.inj found
      exact ⟨before, after, last⟩
    · have none := defaultIndex_ofEntries_eq_none entries purpose unmarked
      rw [defaultIndex] at none
      rw [defaultDevice, DeviceList.defaultDevice, none] at found
      exact nomatch found
  · rintro ⟨before, after, last⟩
    exact last.defaultDevice

/-- A search by name finds the first device that has it. -/
theorem find?_eq_some_iff (snapshot : Snapshot) (name : String) (device : Device) :
    snapshot.find? purpose name = some device ↔
      ∃ position, (snapshot.devices purpose)[position]? = some device ∧ device.name = name ∧
        ∀ (earlier : Nat) (other : Device), earlier < position →
          (snapshot.devices purpose)[earlier]? = some other → other.name ≠ name := by
  show (snapshot.devices purpose).find? _ = some device ↔ _
  rw [List.find?_eq_some_iff_getElem]
  constructor
  · rintro ⟨named, position, bound, stands, first⟩
    refine ⟨position, List.getElem?_eq_some_iff.mpr ⟨bound, stands⟩, beq_iff_eq.mp named, ?_⟩
    intro earlier other less found same
    obtain ⟨within, rfl⟩ := List.getElem?_eq_some_iff.mp found
    have differs := first earlier less
    rw [same, beq_self_eq_true] at differs
    exact nomatch differs
  · rintro ⟨position, stands, named, first⟩
    obtain ⟨bound, rfl⟩ := List.getElem?_eq_some_iff.mp stands
    refine ⟨beq_iff_eq.mpr named, position, bound, rfl, fun earlier less => ?_⟩
    have within : earlier < (snapshot.devices purpose).length := Nat.lt_trans less bound
    have differs := first earlier _ less (List.getElem?_eq_getElem within)
    rw [beq_eq_false_iff_ne.mpr differs]
    rfl

theorem find?_ofEntries_eq_none_iff (name : String) :
    (ofEntries entries).find? purpose name = none ↔
      ∀ entry ∈ entries, entry.1.purpose = purpose → entry.1.name ≠ name := by
  have search : (ofEntries entries).find? purpose name =
      ((ofEntries entries).devices purpose).find? (·.name == name) := rfl
  rw [search, List.find?_eq_none, devices_ofEntries]
  simp only [List.mem_filter, List.mem_map, decide_eq_true_eq, beq_iff_eq]
  constructor
  · intro others entry member own
    exact others entry.1 ⟨⟨entry, member, rfl⟩, own⟩
  · rintro others _ ⟨⟨entry, member, rfl⟩, own⟩
    exact others entry member own

/-- What pushes make of the empty snapshot. Each purpose has the devices pushed for it, in their
order. A push tells where its device is, and stays, through all later pushes. The default of a
purpose is where the last push put its device that marked one for it, and none if no push did; it
lies within the list, its device is the one pushed then, and other pushes leave it alone. A search
by name finds the first device that has the name, and none only if no push brought one. -/
theorem pushes_fill_snapshot :
    (ofEntries entries).devices purpose =
        (entries.map Prod.fst).filter (fun device => device.purpose = purpose) ∧
    (∀ device isDefault after,
      (ofEntries (entries ++ (device, isDefault) :: after)).device? device.purpose
        ((ofEntries entries).push device isDefault).1 = some device) ∧
    (∀ position, (ofEntries entries).defaultIndex purpose = some position ↔
      ∃ before device after, IsLastDefault entries purpose before device after ∧
        position = ((ofEntries before).push device true).1) ∧
    ((ofEntries entries).defaultIndex purpose = none ↔
      ∀ entry ∈ entries, ¬MarksDefault purpose entry) ∧
    (∀ position, (ofEntries entries).defaultIndex purpose = some position →
      position < (ofEntries entries).count purpose) ∧
    (∀ after, (∀ entry ∈ after, ¬MarksDefault purpose entry) →
      (ofEntries (entries ++ after)).defaultIndex purpose =
        (ofEntries entries).defaultIndex purpose) ∧
    (∀ device, (ofEntries entries).defaultDevice purpose = some device ↔
      ∃ before after, IsLastDefault entries purpose before device after) ∧
    (∀ name device, (ofEntries entries).find? purpose name = some device ↔
      ∃ position, ((ofEntries entries).devices purpose)[position]? = some device ∧
        device.name = name ∧ ∀ (earlier : Nat) (other : Device), earlier < position →
          ((ofEntries entries).devices purpose)[earlier]? = some other → other.name ≠ name) ∧
    (∀ name, (ofEntries entries).find? purpose name = none ↔
      ∀ entry ∈ entries, entry.1.purpose = purpose → entry.1.name ≠ name) := by
  exact ⟨devices_ofEntries entries purpose, device?_ofEntries entries,
    defaultIndex_eq_some_iff entries purpose, defaultIndex_eq_none_iff entries purpose,
    defaultIndex_lt_count entries purpose, defaultIndex_ofEntries_append entries purpose,
    defaultDevice_eq_some_iff entries purpose, find?_eq_some_iff purpose (ofEntries entries),
    find?_ofEntries_eq_none_iff entries purpose⟩

/-- A raw output, the default output, and a raw input of the same name as the first. -/
def rawAndDefault : List (Device × Bool) :=
  [({ name := "hw:0,0", description := "Card", purpose := .output, isRaw := true }, false),
    ({ name := "default:CARD=X", description := "X", purpose := .output, isRaw := false }, true),
    ({ name := "hw:0,0", description := "Card", purpose := .input, isRaw := true }, false)]

/-- The input that is pushed last neither becomes a default nor takes the one of the outputs. -/
theorem pushes_fill_snapshot_raw_and_default :
    (ofEntries rawAndDefault).defaultIndex .output = some 1 ∧
      1 < (ofEntries rawAndDefault).count .output ∧
      (ofEntries rawAndDefault).defaultIndex .input = none := by
  obtain ⟨-, -, index, -, within, -⟩ := pushes_fill_snapshot rawAndDefault .output
  obtain ⟨-, -, -, none, -⟩ := pushes_fill_snapshot rawAndDefault .input
  have outputs : (ofEntries rawAndDefault).defaultIndex .output = some 1 :=
    (index 1).mpr ⟨rawAndDefault.take 1, _, rawAndDefault.drop 2, ⟨rfl, rfl, by decide⟩, rfl⟩
  exact ⟨outputs, within 1 outputs, none.mpr (by decide)⟩

end Snapshot

end SoundDevices
