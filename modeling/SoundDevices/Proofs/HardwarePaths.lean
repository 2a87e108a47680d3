import Mathlib.Data.List.Basic
import SoundDevices.Proofs.SweepDevices

set_option autoImplicit false

namespace SoundDevices

/-- The system lists no card twice, and no device of a card. -/
structure SoundSystem.ListsOnce (system : SoundSystem) : Prop where
  cards : ∀ cards, system.cards = .ok cards → cards.Nodup
  pcms : ∀ card control pcms, system.openControl card = .ok (some control) →
    control.pcmDevices = .ok pcms → pcms.Nodup

theorem Inventory.eq_of_orFailure_eq_ok {α : Type} {failure : Option Error} {value answer : α}
    (answered : orFailure failure value = .ok answer) : value = answer := by
  cases failure with
  | none => exact Except.ok.inj answered
  | some failure => exact nomatch answered

/-- A machine that is written down without repetitions lists nothing twice. -/
theorem Inventory.listsOnce_system (inventory : Inventory)
    (cards : (inventory.cards.map (·.index)).Nodup)
    (pcms : ∀ card ∈ inventory.cards, (card.pcms.map (·.device)).Nodup) :
    inventory.system.ListsOnce := by
  constructor
  case cards =>
    intro indices listed
    obtain rfl := eq_of_orFailure_eq_ok listed
    exact cards
  case pcms =>
    intro index control numbers opened listed
    simp only [Inventory.system] at opened
    split at opened
    · exact nomatch opened
    · next card found =>
      have there := eq_of_orFailure_eq_ok opened
      split at there
      · exact nomatch there
      · obtain rfl := Option.some.inj there
        obtain rfl := eq_of_orFailure_eq_ok listed
        exact pcms card (List.mem_of_find?_eq_some found)

namespace Sweep

theorem toList_rawName (card pcm : UInt32) :
    (rawName card pcm).toList =
      "hw:".toList ++ (Nat.toDigits 10 card.toNat ++ ',' :: Nat.toDigits 10 pcm.toNat) := by
  simp [rawName]

/-- The path of a raw device tells its card and its number there. -/
theorem rawName_inj {card pcm otherCard otherPcm : UInt32}
    (same : rawName card pcm = rawName otherCard otherPcm) :
    card = otherCard ∧ pcm = otherPcm := by
  have noComma (n : Nat) : ',' ∉ Nat.toDigits 10 n := by
    intro member
    have digit := Nat.isDigit_of_mem_toDigits (by decide) (by decide) member
    exact absurd digit (by decide)
  have digits {m n : UInt32} (same : Nat.toDigits 10 m.toNat = Nat.toDigits 10 n.toNat) :
      m = n := by
    have numbers := congrArg (Nat.ofDigitChars 10 · 0) same
    simp only [Nat.ofDigitChars_ten_toDigits] at numbers
    exact UInt32.toNat_inj.mp numbers
  have paths := congrArg String.toList same
  rw [toList_rawName, toList_rawName, List.append_cancel_left_eq] at paths
  obtain ⟨cards, -, pcms⟩ :=
    (List.append_cons_inj_of_notMem (noComma _) (noComma _)).mp paths
  exact ⟨digits cards, digits pcms⟩

theorem isExcludedName_rawName (card pcm : UInt32) :
    Hint.isExcludedName (rawName card pcm) = false := by
  simp [Hint.isExcludedName, Hint.isSurroundAlias, Text.after?, toList_rawName, List.isPrefixOf]

def Offers (purpose : Purpose) (name : String) (hint : Hint) : Prop :=
  hint.name = some name ∧ IsListed hint name purpose

instance (purpose : Purpose) (name : String) : DecidablePred (Offers purpose name) :=
  fun _ => inferInstanceAs (Decidable (_ ∧ _))

/-- The raw device of one purpose that a card has under a number: the card lists the number, and has
a stream of that purpose under it. -/
def HasDevice (system : SoundSystem) (preferred : UInt32) (purpose : Purpose) (card pcm : UInt32)
    (device : Device) : Prop :=
  ∃ control cardName pcms, system.openControl card = .ok (some control) ∧
    control.cardName = .ok cardName ∧ control.pcmDevices = .ok pcms ∧ pcm ∈ pcms ∧
    rawDevice? system preferred purpose card control cardName pcm = some device

/-- What a sweep over some cards finds for a purpose under two numbers: the device that a card
before the first that is gone has there. -/
def StandsUnder (system : SoundSystem) (preferred : UInt32) (purpose : Purpose)
    (cards : List UInt32) (card pcm : UInt32) (device : Device) : Prop :=
  card ∈ cards.takeWhile (isThere system) ∧ HasDevice system preferred purpose card pcm device

section

variable {system : SoundSystem} {preferred : UInt32} {purpose : Purpose} {hints : List Hint}
  {cards : List UInt32}

theorem path_of_rawDevice? {card pcm : UInt32} {control : CardControl} {cardName : String}
    {device : Device}
    (found : rawDevice? system preferred purpose card control cardName pcm = some device) :
    device.name = rawName card pcm ∧ device.isRaw = true := by
  rcases told : control.pcmName pcm purpose with failure | _ | pcmName
  · simp [rawDevice?, told] at found
  · simp [rawDevice?, told] at found
  · simp only [rawDevice?, told] at found
    obtain rfl := Option.some.inj found
    simp [rawName]

theorem offers_of_hintDevice? {hint : Hint} {device : Device}
    (found : hintDevice? system preferred purpose hint = some device) :
    Offers purpose device.name hint ∧ device.isRaw = false := by
  unfold hintDevice? at found
  split at found
  · exact nomatch found
  · next name named =>
    split at found
    · next listed =>
      obtain rfl := Option.some.inj found
      simpa [Offers, named] using listed
    · exact nomatch found

theorem exists_hintDevice? (system : SoundSystem) (preferred : UInt32) {hint : Hint} {name : String}
    (offers : Offers purpose name hint) :
    ∃ device, hintDevice? system preferred purpose hint = some device ∧ device.name = name := by
  obtain ⟨named, listed⟩ := offers
  simp [hintDevice?, named, listed]

theorem cardDevices_eq {card : UInt32} {control : CardControl} {cardName : String}
    {pcms : List UInt32} (opened : system.openControl card = .ok (some control))
    (named : control.cardName = .ok cardName) (listed : control.pcmDevices = .ok pcms) :
    cardDevices system preferred purpose card =
      pcms.filterMap (rawDevice? system preferred purpose card control cardName) := by
  simp only [cardDevices, opened, named, listed]

theorem cardDevices_eq_nil_or (card : UInt32) :
    cardDevices system preferred purpose card = [] ∨
      ∃ control cardName pcms, system.openControl card = .ok (some control) ∧
        control.cardName = .ok cardName ∧ control.pcmDevices = .ok pcms := by
  unfold cardDevices
  split
  · next control opened =>
    split
    · next cardName pcms named listed =>
      exact Or.inr ⟨control, cardName, pcms, opened, named, listed⟩
    · exact Or.inl rfl
  · exact Or.inl rfl

theorem mem_cardDevices {card : UInt32} {device : Device} :
    device ∈ cardDevices system preferred purpose card ↔
      ∃ pcm, HasDevice system preferred purpose card pcm device := by
  constructor
  · intro member
    rcases cardDevices_eq_nil_or card with none | ⟨control, cardName, pcms, opened, named, listed⟩
    · rw [none] at member
      exact nomatch member
    · rw [cardDevices_eq opened named listed] at member
      obtain ⟨pcm, numbered, found⟩ := List.mem_filterMap.mp member
      exact ⟨pcm, control, cardName, pcms, opened, named, listed, numbered, found⟩
  · rintro ⟨pcm, control, cardName, pcms, opened, named, listed, numbered, found⟩
    rw [cardDevices_eq opened named listed]
    exact List.mem_filterMap.mpr ⟨pcm, numbered, found⟩

theorem HasDevice.name {card pcm : UInt32} {device : Device}
    (has : HasDevice system preferred purpose card pcm device) :
    device.name = rawName card pcm := by
  obtain ⟨control, cardName, pcms, -, -, -, -, found⟩ := has
  exact (path_of_rawDevice? found).1

/-- A card has at most one device under a number. -/
theorem HasDevice.unique {card pcm : UInt32} {device other : Device}
    (has : HasDevice system preferred purpose card pcm device)
    (hasToo : HasDevice system preferred purpose card pcm other) : device = other := by
  obtain ⟨control, cardName, pcms, opened, named, -, -, found⟩ := has
  obtain ⟨control', cardName', pcms', opened', named', -, -, found'⟩ := hasToo
  obtain rfl := Option.some.inj (Except.ok.inj (opened.symm.trans opened'))
  obtain rfl := Except.ok.inj (named.symm.trans named')
  exact Option.some.inj (found.symm.trans found')

theorem mem_rawDevices {device : Device} :
    device ∈ rawDevices system preferred purpose cards ↔
      ∃ card pcm, StandsUnder system preferred purpose cards card pcm device := by
  simp only [rawDevices, List.mem_flatMap, mem_cardDevices, StandsUnder, exists_and_left]

theorem nodup_names_cardDevices (once : system.ListsOnce) (card : UInt32) :
    ((cardDevices system preferred purpose card).map (·.name)).Nodup := by
  rcases cardDevices_eq_nil_or card with none | ⟨control, cardName, pcms, opened, named, listed⟩
  · rw [none]
    exact List.nodup_nil
  · rw [cardDevices_eq opened named listed, List.map_filterMap]
    refine List.Nodup.filterMap ?_ (once.pcms card control pcms opened listed)
    intro pcm other name here there
    obtain ⟨device, found, rfl⟩ := Option.map_eq_some_iff.mp here
    obtain ⟨device', found', same⟩ := Option.map_eq_some_iff.mp there
    rw [(path_of_rawDevice? found).1, (path_of_rawDevice? found').1] at same
    exact (rawName_inj same).2.symm

theorem nodup_names_rawDevices (once : system.ListsOnce) (plugged : system.cards = .ok cards) :
    ((rawDevices system preferred purpose cards).map (·.name)).Nodup := by
  rw [rawDevices, List.map_flatMap, List.nodup_flatMap]
  refine ⟨fun card _ => nodup_names_cardDevices once card, ?_⟩
  have distinct : (cards.takeWhile (isThere system)).Nodup :=
    (once.cards cards plugged).sublist (List.takeWhile_sublist _)
  -- the path of a device tells which of two cards it is on
  refine distinct.imp fun {card other} differ => List.disjoint_left.mpr fun name here there => ?_
  obtain ⟨device, onCard, rfl⟩ := List.mem_map.mp here
  obtain ⟨device', onOther, same⟩ := List.mem_map.mp there
  obtain ⟨pcm, has⟩ := mem_cardDevices.mp onCard
  obtain ⟨pcm', has'⟩ := mem_cardDevices.mp onOther
  rw [has.name, has'.name] at same
  exact differ (rawName_inj same).1.symm

theorem isRaw_of_mem_rawDevices {device : Device}
    (member : device ∈ rawDevices system preferred purpose cards) : device.isRaw = true := by
  obtain ⟨card, pcm, -, control, cardName, pcms, -, -, -, -, found⟩ := mem_rawDevices.mp member
  exact (path_of_rawDevice? found).2

theorem isRaw_of_mem_hintDevices {device : Device}
    (member : device ∈ hintDevices system preferred purpose hints) : device.isRaw = false := by
  obtain ⟨hint, -, found⟩ := List.mem_filterMap.mp member
  exact (offers_of_hintDevice? found).2

/-- The raw devices among all devices of a purpose are those of the hardware. -/
theorem filter_isRaw :
    (hintDevices system preferred purpose hints ++ rawDevices system preferred purpose cards).filter
        (·.isRaw) = rawDevices system preferred purpose cards := by
  rw [List.filter_append, List.filter_eq_nil_iff.mpr, List.nil_append, List.filter_eq_self]
  · exact fun device member => isRaw_of_mem_rawDevices member
  · intro device member
    rw [isRaw_of_mem_hintDevices member]
    exact Bool.false_ne_true

theorem filter_not_isRaw :
    (hintDevices system preferred purpose hints ++ rawDevices system preferred purpose cards).filter
        (!·.isRaw) = hintDevices system preferred purpose hints := by
  rw [List.filter_append, List.filter_eq_self.mpr, List.filter_eq_nil_iff.mpr, List.append_nil]
  · intro device member
    rw [isRaw_of_mem_rawDevices member]
    exact Bool.false_ne_true
  · intro device member
    rw [isRaw_of_mem_hintDevices member]
    rfl

/-- Among the raw devices a search for a path finds what stands under its numbers. -/
theorem find?_rawDevices_eq_some_iff {card pcm : UInt32} {device : Device} :
    (rawDevices system preferred purpose cards).find? (·.name == rawName card pcm) = some device ↔
      StandsUnder system preferred purpose cards card pcm device := by
  -- what is found is under the numbers that its path tells
  have under {device : Device}
      (found : (rawDevices system preferred purpose cards).find? (·.name == rawName card pcm) =
        some device) : StandsUnder system preferred purpose cards card pcm device := by
    obtain ⟨card', pcm', there, has⟩ := mem_rawDevices.mp (List.mem_of_find?_eq_some found)
    have named : device.name = rawName card pcm := by simpa using List.find?_some found
    obtain ⟨rfl, rfl⟩ := rawName_inj (has.name.symm.trans named)
    exact ⟨there, has⟩
  refine ⟨under, fun stands => ?_⟩
  have some : ((rawDevices system preferred purpose cards).find?
      (·.name == rawName card pcm)).isSome := by
    rw [List.find?_isSome]
    exact ⟨device, mem_rawDevices.mpr ⟨card, pcm, stands⟩, beq_iff_eq.mpr stands.2.name⟩
  obtain ⟨other, found⟩ := Option.isSome_iff_exists.mp some
  rw [found, (under found).2.unique stands.2]

theorem find?_hintDevices_eq_none (system : SoundSystem) (preferred : UInt32) {name : String}
    (none : ∀ hint ∈ hints, ¬Offers purpose name hint) :
    (hintDevices system preferred purpose hints).find? (·.name == name) = .none := by
  rw [List.find?_eq_none]
  intro device member named
  obtain ⟨hint, offered, found⟩ := List.mem_filterMap.mp member
  refine none hint offered ?_
  rw [← beq_iff_eq.mp named]
  exact (offers_of_hintDevice? found).1

/-- Among the names on offer a search finds the device of the first hint that offers the name. -/
theorem find?_hintDevices_of_first {name : String} {before after : List Hint} {hint : Hint}
    {device : Device} (found : hintDevice? system preferred purpose hint = some device)
    (named : device.name = name) (first : ∀ earlier ∈ before, ¬Offers purpose name earlier) :
    (hintDevices system preferred purpose (before ++ hint :: after)).find? (·.name == name) =
      some device := by
  have none := find?_hintDevices_eq_none system preferred first
  rw [hintDevices] at none
  rw [hintDevices, List.filterMap_append, List.find?_append, none, Option.none_or,
    List.filterMap_cons_some found, List.find?_cons_of_pos (by simpa using named)]

end

/-- How a snapshot of one purpose tells the hardware, given the names on offer and the cards. A path
that is also a name on offer finds the device of the first hint that offers it. -/
structure TellsHardware (system : SoundSystem) (preferred : UInt32) (hints : List Hint)
    (cards : List UInt32) (snapshot : Snapshot) (purpose : Purpose) : Prop where
  distinct : (((snapshot.devices purpose).filter (·.isRaw)).map (·.name)).Nodup
  path : ∀ device ∈ snapshot.devices purpose, device.isRaw = true →
    ∃ card pcm, StandsUnder system preferred purpose cards card pcm device ∧
      device.name = "hw:" ++ toString card.toNat ++ "," ++ toString pcm.toNat ∧
      ∀ otherCard otherPcm, device.name = rawName otherCard otherPcm →
        otherCard = card ∧ otherPcm = pcm
  notExcluded : ∀ device ∈ snapshot.devices purpose, device.isRaw = true →
    Hint.isExcludedName device.name = false
  search : ∀ card pcm, (∀ hint ∈ hints, ¬Offers purpose (rawName card pcm) hint) →
    ∀ device, snapshot.find? purpose (rawName card pcm) = some device ↔
      StandsUnder system preferred purpose cards card pcm device
  shadowed : ∀ card pcm before hint after, hints = before ++ hint :: after →
    Offers purpose (rawName card pcm) hint →
    (∀ earlier ∈ before, ¬Offers purpose (rawName card pcm) earlier) →
    ∃ device, hintDevice? system preferred purpose hint = some device ∧
      snapshot.find? purpose (rawName card pcm) = some device

/-- Raw device names identify hardware paths. Where a system lists nothing twice, the raw devices
that a sweep finds for a purpose have names of their own, which tell the card and the number there
and are never left out; a search by such a name finds the raw device, unless a hint of that
purpose offers the name, in which case it finds that of the first such hint. -/
theorem paths_tell_hardware {system : SoundSystem} (once : system.ListsOnce) {preferred : UInt32}
    {snapshot : Snapshot} (found : enumerate system preferred = .ok snapshot) :
    ∃ hints cards, system.pcmHints = .ok hints ∧ system.cards = .ok cards ∧
      ∀ purpose, TellsHardware system preferred hints cards snapshot purpose := by
  obtain ⟨hints, cards, offered, plugged, lists⟩ := list_of_enumerate found
  refine ⟨hints, cards, offered, plugged, fun purpose => ?_⟩
  have devices := devices_of_list (lists purpose)
  have raw : (snapshot.devices purpose).filter (·.isRaw) =
      rawDevices system preferred purpose cards := by rw [devices, filter_isRaw]
  have under {device : Device} (member : device ∈ snapshot.devices purpose)
      (isRaw : device.isRaw = true) :
      ∃ card pcm, StandsUnder system preferred purpose cards card pcm device := by
    rw [← mem_rawDevices, ← raw]
    exact List.mem_filter.mpr ⟨member, isRaw⟩
  have search (name : String) : snapshot.find? purpose name =
      ((hintDevices system preferred purpose hints).find? (·.name == name)).or
        ((rawDevices system preferred purpose cards).find? (·.name == name)) := by
    rw [← List.find?_append, ← devices]
    rfl
  constructor
  case distinct =>
    rw [raw]
    exact nodup_names_rawDevices once plugged
  case path =>
    intro device member isRaw
    obtain ⟨card, pcm, stands⟩ := under member isRaw
    refine ⟨card, pcm, stands, stands.2.name, fun otherCard otherPcm same => ?_⟩
    exact rawName_inj (same.symm.trans stands.2.name)
  case notExcluded =>
    intro device member isRaw
    obtain ⟨card, pcm, stands⟩ := under member isRaw
    rw [stands.2.name, isExcludedName_rawName]
  case search =>
    intro card pcm none device
    rw [search, find?_hintDevices_eq_none system preferred none, Option.none_or,
      find?_rawDevices_eq_some_iff]
  case shadowed =>
    rintro card pcm before hint after rfl offers first
    obtain ⟨device, isDevice, named⟩ := exists_hintDevice? system preferred offers
    refine ⟨device, isDevice, ?_⟩
    rw [search, find?_hintDevices_of_first isDevice named first, Option.some_or]

/-- A dock whose line output is also on offer under its path, with a device and a card whose numbers
have the same digits one after the other. -/
def dock : Inventory where
  hints := [⟨some "hw:1,0", some "Dock\nLine", some .output⟩]
  cards := [
    { index := 1, name := "Dock"
      pcms := [
        { device := 0, output := { name := some "Line" }, input := { name := some "Mic" } },
        { device := 10, output := { name := some "Phones" } }] },
    { index := 11, name := "USB", pcms := [{ device := 0, output := { name := some "DAC" } }] }]

theorem paths_tell_hardware_dock :
    ∃ snapshot, enumerate dock.system 48000 = .ok snapshot ∧
      (((snapshot.devices .output).filter (·.isRaw)).map (·.name)).Nodup ∧
      (snapshot.find? .output "hw:1,0").map (·.isRaw) = some false ∧
      (snapshot.find? .output "hw:1,10").map (·.description) = some "Dock Phones" ∧
      (snapshot.find? .input "hw:1,0").map (·.isRaw) = some true := by
  have once : dock.system.ListsOnce := dock.listsOnce_system (by decide) (by decide)
  obtain ⟨snapshot, found⟩ : ∃ snapshot, enumerate dock.system 48000 = .ok snapshot := ⟨_, rfl⟩
  obtain ⟨hints, cards, offered, plugged, tells⟩ := paths_tell_hardware once found
  have names : dock.system.pcmHints = .ok dock.hints := rfl
  have indices : dock.system.cards = .ok [1, 11] := rfl
  obtain rfl := Except.ok.inj (offered.symm.trans names)
  obtain rfl := Except.ok.inj (plugged.symm.trans indices)
  obtain ⟨line, isLine, foundLine⟩ := (tells .output).shadowed 1 0 [] _ [] rfl
    (by decide +kernel) (by decide)
  have phones := ((tells .output).search 1 10 (by decide +kernel) _).mpr
    ⟨by decide +kernel, _, _, _, rfl, rfl, rfl, by decide +kernel, rfl⟩
  have mic := ((tells .input).search 1 0 (by decide +kernel) _).mpr
    ⟨by decide +kernel, _, _, _, rfl, rfl, rfl, by decide +kernel, rfl⟩
  have paths : rawName 1 0 = "hw:1,0" ∧ rawName 1 10 = "hw:1,10" := by decide +kernel
  rw [paths.1] at foundLine mic
  rw [paths.2] at phones
  refine ⟨snapshot, found, (tells .output).distinct, ?_, ?_, ?_⟩
  · rw [foundLine, Option.map_some, (offers_of_hintDevice? isLine).2]
  · rw [phones]
    rfl
  · rw [mic]
    rfl

end Sweep

end SoundDevices
