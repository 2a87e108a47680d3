import Mathlib.Data.List.Induction
import SoundDevices.Snapshot

set_option autoImplicit false

namespace SoundDevices

/-- The last member of a list with a property stands at a position. -/
def LastAt {α : Type} (holds : α → Prop) (list : List α) (position : Nat) : Prop :=
  (∃ x, list[position]? = some x ∧ holds x) ∧
    ∀ later x, position < later → list[later]? = some x → ¬holds x

namespace LastAt

variable {α β : Type} {holds : α → Prop}

theorem concat_of_holds (list : List α) {x : α} (new : holds x) (position : Nat) :
    LastAt holds (list ++ [x]) position ↔ position = list.length := by
  constructor
  · rintro ⟨⟨y, stands, -⟩, last⟩
    have bound := (List.getElem?_eq_some_iff.mp stands).1
    rw [List.length_append, List.length_singleton] at bound
    by_contra other
    exact last list.length x (by omega) List.getElem?_concat_length new
  · rintro rfl
    refine ⟨⟨x, List.getElem?_concat_length, new⟩, ?_⟩
    intro later y past stands
    have bound := (List.getElem?_eq_some_iff.mp stands).1
    rw [List.length_append, List.length_singleton] at bound
    omega

theorem concat_of_not (list : List α) {x : α} (other : ¬holds x) (position : Nat) :
    LastAt holds (list ++ [x]) position ↔ LastAt holds list position := by
  have elsewhere (place : Nat) (y : α) :
      (list ++ [x])[place]? = some y ∧ holds y ↔ list[place]? = some y ∧ holds y := by
    by_cases inside : place < list.length
    · rw [List.getElem?_append_left inside]
    · rw [List.getElem?_append_right (by omega), List.getElem?_eq_none (by omega : _ ≤ place)]
      constructor
      · rintro ⟨stands, holdsOfIt⟩
        have only := List.mem_of_getElem? stands
        rw [List.mem_singleton.mp only] at holdsOfIt
        exact absurd holdsOfIt other
      · rintro ⟨stands, -⟩
        exact nomatch stands
  unfold LastAt
  simp only [elsewhere]
  refine and_congr_right fun _ => ⟨?_, ?_⟩
  · intro last later y past stands holdsOfIt
    exact last later y past ((elsewhere later y).mpr ⟨stands, holdsOfIt⟩).1 holdsOfIt
  · intro last later y past stands holdsOfIt
    exact last later y past ((elsewhere later y).mp ⟨stands, holdsOfIt⟩).1 holdsOfIt

theorem append_of_not (list more : List α) (others : ∀ x ∈ more, ¬holds x) (position : Nat) :
    LastAt holds (list ++ more) position ↔ LastAt holds list position := by
  induction more using List.reverseRecOn with
  | nil => rw [List.append_nil]
  | append_singleton more x ih =>
    have other := others x (List.mem_append_right _ List.mem_cons_self)
    rw [← List.append_assoc, concat_of_not _ other]
    exact ih fun y member => others y (List.mem_append_left _ member)

theorem map_iff (f : β → α) (list : List β) (position : Nat) :
    LastAt holds (list.map f) position ↔ LastAt (fun x => holds (f x)) list position := by
  simp only [LastAt, List.getElem?_map, Option.map_eq_some_iff]
  constructor
  · rintro ⟨⟨_, ⟨x, stands, rfl⟩, holdsOfIt⟩, last⟩
    exact ⟨⟨x, stands, holdsOfIt⟩, fun later y past found => last later _ past ⟨y, found, rfl⟩⟩
  · rintro ⟨⟨x, stands, holdsOfIt⟩, last⟩
    refine ⟨⟨_, ⟨x, stands, rfl⟩, holdsOfIt⟩, ?_⟩
    rintro later _ past ⟨y, found, rfl⟩
    exact last later y past found

theorem not_nil (position : Nat) : ¬LastAt holds [] position := by
  rintro ⟨⟨x, stands, -⟩, -⟩
  exact nomatch stands

theorem exists_iff (list : List α) :
    (∃ position, LastAt holds list position) ↔ ∃ x ∈ list, holds x := by
  induction list using List.reverseRecOn with
  | nil => simp [not_nil]
  | append_singleton list x ih =>
    by_cases new : holds x
    · simp [concat_of_holds list new, new]
    · simp [concat_of_not list new, new, ih]

end LastAt

namespace DeviceList

/-- The list made by pushing the devices of one purpose one after the other. -/
def ofEntries (entries : List (Device × Bool)) : DeviceList :=
  entries.foldl (fun list entry => list.push entry.1 entry.2) {}

theorem ofEntries_concat (entries : List (Device × Bool)) (entry : Device × Bool) :
    ofEntries (entries ++ [entry]) = (ofEntries entries).push entry.1 entry.2 := by
  simp [ofEntries]

theorem devices_ofEntries (entries : List (Device × Bool)) :
    (ofEntries entries).devices = entries.map Prod.fst := by
  induction entries using List.reverseRecOn with
  | nil => rfl
  | append_singleton entries entry ih =>
    rw [ofEntries_concat, devices_push, ih, List.map_append, List.map_singleton]

/-- The default is the last device that was marked as one when it was pushed. -/
theorem defaultIndex_ofEntries (entries : List (Device × Bool)) (position : Nat) :
    (ofEntries entries).defaultIndex = some position ↔
      LastAt (fun entry => entry.2 = true) entries position := by
  induction entries using List.reverseRecOn with
  | nil => simp [LastAt.not_nil, ofEntries]
  | append_singleton entries entry ih =>
    obtain ⟨device, isDefault⟩ := entry
    rw [ofEntries_concat]
    cases isDefault with
    | true =>
      have marked : (fun entry : Device × Bool => entry.2 = true) (device, true) := rfl
      rw [LastAt.concat_of_holds entries marked, defaultIndex_push_true, devices_ofEntries,
        List.length_map, Option.some.injEq, eq_comm]
    | false =>
      have unmarked : ¬(fun entry : Device × Bool => entry.2 = true) (device, false) := nofun
      rw [LastAt.concat_of_not entries unmarked, defaultIndex_push_false, ih]

/-- Which device is the default depends on the marks alone. -/
theorem defaultIndex_ofEntries_congr {first second : List (Device × Bool)}
    (marks : first.map (·.2) = second.map (·.2)) :
    (ofEntries first).defaultIndex = (ofEntries second).defaultIndex := by
  have byMarks (entries : List (Device × Bool)) (position : Nat) :
      (ofEntries entries).defaultIndex = some position ↔
        LastAt (· = true) (entries.map (·.2)) position := by
    rw [defaultIndex_ofEntries, LastAt.map_iff]
  refine Option.ext fun position => ?_
  rw [byMarks, byMarks, marks]

end DeviceList

namespace Snapshot

def filed (purpose : Purpose) (entries : List (Device × Bool)) : List (Device × Bool) :=
  entries.filter fun entry => entry.1.purpose = purpose

theorem filed_append (purpose : Purpose) (first second : List (Device × Bool)) :
    filed purpose (first ++ second) = filed purpose first ++ filed purpose second :=
  List.filter_append ..

/-- Each purpose has a list of its own, made of what is filed under it. -/
theorem list_ofEntries (entries : List (Device × Bool)) (purpose : Purpose) :
    (ofEntries entries).list purpose = DeviceList.ofEntries (filed purpose entries) := by
  induction entries using List.reverseRecOn with
  | nil => cases purpose <;> rfl
  | append_singleton entries entry ih =>
    obtain ⟨device, isDefault⟩ := entry
    rw [ofEntries_concat, list_insert, filed_append, ih]
    by_cases own : device.purpose = purpose
    · simp [filed, own, DeviceList.ofEntries_concat]
    · simp [filed, own]

end Snapshot

end SoundDevices
