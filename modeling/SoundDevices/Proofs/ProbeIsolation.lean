import Mathlib.Data.List.Forall2
import SoundDevices.Proofs.HardwarePaths
import SoundDevices.Proofs.SweepFailures

set_option autoImplicit false

namespace SoundDevices

namespace Sweep

/-- One device as two systems tell it: it was the same before it was opened, and was given the
answers of its own system. -/
inductive Twins (first second : SoundSystem) (preferred : UInt32) (purpose : Purpose) :
    Device → Device → Prop
  | named (blank : Device) (named : blank.isRaw = false) :
      Twins first second preferred purpose
        (blank.opened (first.openPcm blank.name purpose) none preferred)
        (blank.opened (second.openPcm blank.name purpose) none preferred)
  | raw (blank : Device) (card pcm : UInt32) (path : blank.name = rawName card pcm)
      (raw : blank.isRaw = true) :
      Twins first second preferred purpose
        (blank.opened (first.openPcm blank.name purpose)
          (first.hwChannelMaps card pcm purpose) preferred)
        (blank.opened (second.openPcm blank.name purpose)
          (second.hwChannelMaps card pcm purpose) preferred)

section Twins

variable {first second : SoundSystem} {preferred : UInt32} {purpose : Purpose}

/-- What is known of a device before it is opened is the same on both systems. -/
theorem Twins.labels {left right : Device}
    (twins : Twins first second preferred purpose left right) :
    left.name = right.name ∧ left.description = right.description ∧
      left.purpose = right.purpose ∧ left.isRaw = right.isRaw := by
  cases twins <;> simp

/-- A device whose own answers are the same on both systems is the same device. -/
theorem Twins.eq_of_answers {left right : Device}
    (twins : Twins first second preferred purpose left right)
    (opens : first.openPcm left.name purpose = second.openPcm left.name purpose)
    (maps : left.isRaw = true → ∃ card pcm, left.name = rawName card pcm ∧
      first.hwChannelMaps card pcm purpose = second.hwChannelMaps card pcm purpose) :
    left = right := by
  cases twins with
  | named blank named =>
    rw [Device.name_opened] at opens
    rw [opens]
  | raw blank card pcm path raw =>
    simp only [Device.name_opened] at opens maps
    obtain ⟨ownCard, ownPcm, own, told⟩ := maps (by simpa using raw)
    obtain ⟨rfl, rfl⟩ := rawName_inj (path.symm.trans own)
    rw [opens, told]

theorem twins_hintDevice? (hint : Hint) :
    Option.Rel (Twins first second preferred purpose)
      (hintDevice? first preferred purpose hint) (hintDevice? second preferred purpose hint) := by
  unfold hintDevice?
  cases hint.name with
  | none => exact .none
  | some name =>
    by_cases listed : IsListed hint name purpose
    · simp only [listed, if_true]
      exact .some (.named _ rfl)
    · simp only [listed, if_false]
      exact .none

theorem twins_rawDevice? (card : UInt32) (control : CardControl) (cardName : String)
    (pcm : UInt32) :
    Option.Rel (Twins first second preferred purpose)
      (rawDevice? first preferred purpose card control cardName pcm)
      (rawDevice? second preferred purpose card control cardName pcm) := by
  unfold rawDevice?
  rcases control.pcmName pcm purpose with failure | _ | pcmName
  · exact .none
  · exact .none
  · exact .some (.raw _ card pcm rfl rfl)

/-- Devices found one by one on both systems stand side by side. -/
theorem twins_filterMap {α : Type} {find other : α → Option Device}
    (each : ∀ x, Option.Rel (Twins first second preferred purpose) (find x) (other x))
    (xs : List α) :
    List.Forall₂ (Twins first second preferred purpose) (xs.filterMap find)
      (xs.filterMap other) := by
  refine List.rel_filterMap (R := Eq) ?_ (List.forall₂_refl xs)
  rintro x _ rfl
  exact each x

theorem twins_cardDevices (alike : first.AlikeButForProbes second) (card : UInt32) :
    List.Forall₂ (Twins first second preferred purpose) (cardDevices first preferred purpose card)
      (cardDevices second preferred purpose card) := by
  unfold cardDevices
  rw [alike.openControl]
  rcases second.openControl card with failure | _ | control
  · exact .nil
  · exact .nil
  · dsimp only
    cases control.cardName with
    | error failure => exact .nil
    | ok cardName =>
      cases control.pcmDevices with
      | error failure => exact .nil
      | ok pcms => exact twins_filterMap (twins_rawDevice? card control cardName) pcms

theorem twins_rawDevices (alike : first.AlikeButForProbes second) (cards : List UInt32) :
    List.Forall₂ (Twins first second preferred purpose) (rawDevices first preferred purpose cards)
      (rawDevices second preferred purpose cards) := by
  have there : isThere first = isThere second := by
    funext card
    rw [isThere, isThere, alike.openControl]
  rw [rawDevices, rawDevices, there]
  refine List.rel_flatMap (R := Eq) (List.forall₂_refl _) ?_
  rintro card _ rfl
  exact twins_cardDevices alike card

theorem Twins.of_forall₂ {lefts rights : List Device}
    (twins : List.Forall₂ (Twins first second preferred purpose) lefts rights)
    {position : Nat} {left right : Device} (here : lefts[position]? = some left)
    (there : rights[position]? = some right) :
    Twins first second preferred purpose left right := by
  obtain ⟨inside, rfl⟩ := List.getElem?_eq_some_iff.mp here
  obtain ⟨insideToo, rfl⟩ := List.getElem?_eq_some_iff.mp there
  exact twins.get inside insideToo

theorem Twins.map_eq {α : Type} {lefts rights : List Device}
    (twins : List.Forall₂ (Twins first second preferred purpose) lefts rights)
    {label : Device → α}
    (same : ∀ left right, Twins first second preferred purpose left right →
      label left = label right) :
    lefts.map label = rights.map label := by
  induction twins with
  | nil => rfl
  | cons pair _ ih => rw [List.map_cons, List.map_cons, same _ _ pair, ih]

end Twins

/-- How the snapshots of two systems compare for one purpose. -/
structure Compares (first second : SoundSystem) (left right : Snapshot) (purpose : Purpose) :
    Prop where
  count : left.count purpose = right.count purpose
  defaultIndex : left.defaultIndex purpose = right.defaultIndex purpose
  labels : ∀ position here there, left.device? purpose position = some here →
    right.device? purpose position = some there →
      here.name = there.name ∧ here.description = there.description ∧
        here.purpose = there.purpose ∧ here.isRaw = there.isRaw
  own : ∀ position here there, left.device? purpose position = some here →
    right.device? purpose position = some there →
      first.openPcm here.name purpose = second.openPcm here.name purpose →
      (here.isRaw = true → ∃ card pcm, here.name = rawName card pcm ∧
        first.hwChannelMaps card pcm purpose = second.hwChannelMaps card pcm purpose) →
      here = there

/-- The devices of one purpose, given the names on offer and the cards. -/
theorem device?_of_list {snapshot : Snapshot} {purpose : Purpose} {named raw : List Device}
    (made : snapshot.list purpose =
      .ofEntries (named.map hintEntryOf ++ raw.map rawEntryOf)) (position : Nat) :
    snapshot.device? purpose position = (named ++ raw)[position]? := by
  rw [← devices_of_list made]
  rfl

theorem compares_of_enumerate {first second : SoundSystem}
    (alike : first.AlikeButForProbes second) {preferred : UInt32} {left right : Snapshot}
    (found : enumerate first preferred = .ok left)
    (foundToo : enumerate second preferred = .ok right) (purpose : Purpose) :
    Compares first second left right purpose := by
  obtain ⟨hints, cards, offered, plugged, lists⟩ := list_of_enumerate found
  obtain ⟨sameHints, sameCards, offeredToo, pluggedToo, listsToo⟩ := list_of_enumerate foundToo
  -- both sweeps went over the same names and the same cards
  rw [← alike.pcmHints, offered] at offeredToo
  rw [← alike.cards, plugged] at pluggedToo
  obtain rfl := Except.ok.inj offeredToo
  obtain rfl := Except.ok.inj pluggedToo
  have named : List.Forall₂ (Twins first second preferred purpose)
      (hintDevices first preferred purpose hints) (hintDevices second preferred purpose hints) :=
    twins_filterMap twins_hintDevice? hints
  have raw : List.Forall₂ (Twins first second preferred purpose)
      (rawDevices first preferred purpose cards) (rawDevices second preferred purpose cards) :=
    twins_rawDevices alike cards
  have twins := List.rel_append named raw
  have here := device?_of_list (lists purpose)
  have there := device?_of_list (listsToo purpose)
  refine ⟨?_, ?_, ?_, ?_⟩
  · rw [Snapshot.count, Snapshot.count, lists, listsToo, DeviceList.count, DeviceList.count,
      DeviceList.devices_ofEntries, DeviceList.devices_ofEntries, List.length_map, List.length_map]
    simpa using twins.length_eq
  · rw [Snapshot.defaultIndex, Snapshot.defaultIndex, lists, listsToo]
    refine DeviceList.defaultIndex_ofEntries_congr ?_
    simp only [List.map_append, List.map_map]
    -- a name on offer is marked by its name, and a raw device never
    rw [Twins.map_eq named fun left right pair => by
        simp [hintEntryOf, pair.labels.1],
      Twins.map_eq raw fun _ _ _ => rfl]
  · intro position x y atX atY
    rw [here] at atX
    rw [there] at atY
    exact (Twins.of_forall₂ twins atX atY).labels
  · intro position x y atX atY opens maps
    rw [here] at atX
    rw [there] at atY
    exact (Twins.of_forall₂ twins atX atY).eq_of_answers opens maps

/-- Probes are isolated from each other and from the sweep. Two systems that answer alike to
everything else are asked the same questions in the same order. The sweeps fail with the same
failure, or they yield snapshots with the same devices at the same positions and the same defaults;
what a device answered to its own probe is all that its entry depends on besides. -/
theorem probes_are_isolated {first second : SoundSystem}
    (alike : first.AlikeButForProbes second) (preferred : UInt32) :
    (run first preferred).calls = (run second preferred).calls ∧
    ((∃ failure, enumerate first preferred = .error failure ∧
        enumerate second preferred = .error failure) ∨
      ∃ left right, enumerate first preferred = .ok left ∧ enumerate second preferred = .ok right ∧
        ∀ purpose, Compares first second left right purpose) := by
  have here := follows_run first preferred
  have there := follows_run second preferred
  rw [inOrder_congr alike, fatal?_congr alike] at here
  refine ⟨here.calls.trans there.calls.symm, ?_⟩
  have decided : failureOf (enumerate first preferred) = failureOf (enumerate second preferred) :=
    here.failure.trans there.failure.symm
  cases found : enumerate first preferred with
  | error failure =>
    rw [found, failureOf_error, eq_comm, failureOf_eq_some_iff] at decided
    exact Or.inl ⟨failure, rfl, decided⟩
  | ok left =>
    rw [found, failureOf_ok, eq_comm, failureOf_eq_none_iff] at decided
    obtain ⟨right, foundToo⟩ := decided
    exact Or.inr ⟨left, right, rfl, foundToo, compares_of_enumerate alike found foundToo⟩

/-- The laptop with all its devices in use: none of them opens, and no maps are known. -/
def busyLaptop : SoundSystem :=
  { laptop.system with
    openPcm := fun name _ => .error (.openingDevice name)
    hwChannelMaps := fun _ _ _ => none }

/-- The default device of the laptop never records, so that its input is the same whether or not the
devices are in use. -/
theorem probes_are_isolated_laptop :
    ∃ left right, enumerate laptop.system 48000 = .ok left ∧
      enumerate busyLaptop 48000 = .ok right ∧ left ≠ right ∧
      left.count .output = right.count .output ∧
      left.defaultIndex .output = right.defaultIndex .output ∧
      left.device? .input 0 = right.device? .input 0 := by
  have alike : laptop.system.AlikeButForProbes busyLaptop := ⟨rfl, rfl, rfl⟩
  have defaultInput (system : SoundSystem) (snapshot : Snapshot) :
      enumerate system 48000 = .ok snapshot →
      (enumerate system 48000).toOption.any (fun snapshot =>
        (snapshot.device? .input 0).any fun device =>
          device.name == "default:CARD=PCH" && !device.isRaw) = true →
      ∃ device, snapshot.device? .input 0 = some device ∧ device.name = "default:CARD=PCH" ∧
        device.isRaw = false := by
    intro found shown
    rw [found] at shown
    cases stands : snapshot.device? .input 0 with
    | none => simp [Except.toOption, stands] at shown
    | some device => simpa [Except.toOption, stands] using shown
  obtain ⟨-, ⟨failure, failed, -⟩ | ⟨left, right, found, foundToo, compares⟩⟩ :=
    probes_are_isolated alike 48000
  · have succeeds : (enumerate laptop.system 48000).toOption.isSome = true := by decide +kernel
    rw [failed] at succeeds
    exact nomatch succeeds
  · obtain ⟨here, atHere, name, named⟩ := defaultInput _ _ found (by decide +kernel)
    obtain ⟨there, atThere, -, -⟩ := defaultInput _ _ foundToo (by decide +kernel)
    have opens : laptop.system.openPcm here.name .input = busyLaptop.openPcm here.name .input := by
      rw [name]
      decide +kernel
    have same := (compares .input).own 0 here there atHere atThere opens (by simp [named])
    have differ : (enumerate laptop.system 48000).toOption ≠
        (enumerate busyLaptop 48000).toOption := by decide +kernel
    refine ⟨left, right, found, foundToo, ?_, (compares .output).count,
      (compares .output).defaultIndex, ?_⟩
    · rintro rfl
      exact differ (by rw [found, foundToo])
    · rw [atHere, atThere, same]

end Sweep

end SoundDevices
