import Mathlib.Data.List.Nodup
import SoundDevices.Inventory
import SoundDevices.Proofs.ExcludedNames
import SoundDevices.Proofs.SweepCalls

set_option autoImplicit false

namespace SoundDevices

namespace Text

/-- A pattern stands somewhere in a text if the text is the pattern with something around it. -/
theorem occursIn_iff (pattern text : List Char) :
    occursIn pattern text = true ↔ pattern <:+: text := by
  induction text with
  | nil => simp [occursIn_nil, List.isEmpty_iff]
  | cons c rest ih => simp [occursIn_cons, ih, List.infix_cons_iff]

end Text

namespace Hint

instance (name : String) : Decidable (LeftOut name.toList) :=
  decidable_of_iff _ (isExcludedName_iff name)

def firstLine (raw : List Char) : List Char := raw.takeWhile (· != '\n')

/-- What follows the first line end of a description, whatever lines it has. -/
def laterLines (raw : List Char) : List Char := (raw.dropWhile (· != '\n')).tail

/-- A description as it is shown: its first line, and behind a colon and a blank whatever follows.
One that has no line end is shown as it is. -/
def shownLines (raw : List Char) : List Char :=
  if '\n' ∈ raw then firstLine raw ++ [':', ' '] ++ laterLines raw else raw

theorem joinFirstLine_eq (raw : List Char) : joinFirstLine raw = shownLines raw := by
  induction raw with
  | nil => rfl
  | cons c rest ih =>
    by_cases lineEnd : c = '\n'
    · subst lineEnd
      simp [shownLines, firstLine, laterLines]
    · rw [joinFirstLine_cons c rest lineEnd, ih]
      by_cases more : '\n' ∈ rest <;>
        simp [shownLines, firstLine, laterLines, more, lineEnd, Ne.symm lineEnd]

theorem composeDescription_eq (raw : String) :
    composeDescription raw = String.ofList (shownLines raw.toList) := by
  rw [composeDescription, joinFirstLine_eq]

end Hint

namespace Sweep

open Snapshot (filed filed_append)

/-- The description of a hint as it is shown; one without counts as empty. -/
def shownText (hint : Hint) : List Char := Hint.shownLines (hint.description.getD "").toList

theorem toList_shownDescription (hint : Hint) :
    hint.shownDescription.toList = shownText hint := by
  rw [Hint.shownDescription, Hint.composeDescription_eq, String.toList_ofList, shownText]

theorem mentionsOutput_iff_shownText (hint : Hint) :
    Hint.mentionsOutput hint.shownDescription = true ↔
      "output".toList <:+: (shownText hint).map Char.toLower := by
  rw [Hint.mentionsOutput, Text.occursIn_iff, toList_shownDescription]
  exact Iff.rfl

/-- A hint with a name is a device of one purpose: the name is not left out, the hint has no other
direction, and what is to be an input does not speak of an output, in whatever case. -/
def IsListed (hint : Hint) (name : String) (purpose : Purpose) : Prop :=
  ¬Hint.LeftOut name.toList ∧
    (hint.direction = none ∨ hint.direction = some purpose) ∧
    ¬(purpose = .input ∧ "output".toList <:+: (shownText hint).map Char.toLower)

instance (hint : Hint) (name : String) (purpose : Purpose) :
    Decidable (IsListed hint name purpose) :=
  inferInstanceAs (Decidable (¬_ ∧ _ ∧ ¬_))

/-- The device of one purpose that a hint stands for, if any. -/
def hintDevice? (system : SoundSystem) (preferred : UInt32) (purpose : Purpose) (hint : Hint) :
    Option Device :=
  match hint.name with
  | none => none
  | some name =>
    if IsListed hint name purpose then
      let device : Device :=
        { name, purpose, isRaw := false, description := String.ofList (shownText hint) }
      some (device.opened (system.openPcm name purpose) none preferred)
    else none

def hintDevices (system : SoundSystem) (preferred : UInt32) (purpose : Purpose)
    (hints : List Hint) : List Device :=
  hints.filterMap (hintDevice? system preferred purpose)

/-- The raw device of one purpose that a device of a card is, if it has a stream there. -/
def rawDevice? (system : SoundSystem) (preferred : UInt32) (purpose : Purpose) (card : UInt32)
    (control : CardControl) (cardName : String) (pcm : UInt32) : Option Device :=
  match control.pcmName pcm purpose with
  | .ok (some pcmName) =>
    let name := "hw:" ++ toString card.toNat ++ "," ++ toString pcm.toNat
    let device : Device :=
      { name, purpose, isRaw := true, description := cardName ++ " " ++ pcmName }
    some (device.opened (system.openPcm name purpose) (system.hwChannelMaps card pcm purpose)
      preferred)
  | _ => none

def cardDevices (system : SoundSystem) (preferred : UInt32) (purpose : Purpose) (card : UInt32) :
    List Device :=
  match system.openControl card with
  | .ok (some control) =>
    match control.cardName, control.pcmDevices with
    | .ok cardName, .ok pcms =>
      pcms.filterMap (rawDevice? system preferred purpose card control cardName)
    | _, _ => []
  | _ => []

def isThere (system : SoundSystem) (card : UInt32) : Bool :=
  match system.openControl card with
  | .ok none => false
  | _ => true

/-- The raw devices of one purpose of all cards before the first that is gone. -/
def rawDevices (system : SoundSystem) (preferred : UInt32) (purpose : Purpose)
    (cards : List UInt32) : List Device :=
  (cards.takeWhile (isThere system)).flatMap (cardDevices system preferred purpose)

def hintEntryOf (device : Device) : Entry := (device, Hint.isDefaultName device.name)

def rawEntryOf (device : Device) : Entry := (device, false)

/-- What a loop files under a purpose, if each of its rounds files what it should. -/
theorem filed_of_collect {α : Type} {next : α → Traced (List Entry)} {purpose : Purpose}
    {files : α → List Entry}
    (each : ∀ x entries, (next x).result = .ok entries → filed purpose entries = files x)
    {xs : List α} {entries : List Entry} (found : (Traced.collect next xs).result = .ok entries) :
    filed purpose entries = xs.flatMap files := by
  induction xs generalizing entries with
  | nil =>
    obtain rfl := Except.ok.inj found
    rfl
  | cons x xs ih =>
    rw [Traced.collect_cons] at found
    obtain ⟨head, tail, early, late, rfl, -⟩ := Traced.of_append_ok found
    rw [filed_append, List.flatMap_cons, each x head early, ih late]

/-- A loop over purposes files under each what its own round yields. -/
theorem flatMap_purposes {α : Type} (purposes : List Purpose) (unique : purposes.Nodup)
    (purpose : Purpose) (files : Purpose → List α) :
    (purposes.flatMap fun own => if own = purpose then files own else []) =
      if purpose ∈ purposes then files purpose else [] := by
  induction purposes with
  | nil => rfl
  | cons own purposes ih =>
    have distinct := List.nodup_cons.mp unique
    rw [List.flatMap_cons, ih distinct.2]
    by_cases same : own = purpose
    · subst same
      simp [distinct.1]
    · simp [same, Ne.symm same]

theorem nodup_devicePurposes (hint : Hint) : hint.devicePurposes.Nodup := by
  refine List.Nodup.filter _ ?_
  unfold Hint.purposes
  split
  · exact List.nodup_singleton _
  · decide

theorem mem_devicePurposes (hint : Hint) (purpose : Purpose) :
    purpose ∈ hint.devicePurposes ↔
      (hint.direction = none ∨ hint.direction = some purpose) ∧
        ¬(purpose = .input ∧ "output".toList <:+: (shownText hint).map Char.toLower) := by
  rw [Hint.devicePurposes, List.mem_filter, Hint.mem_purposes, ← mentionsOutput_iff_shownText]
  refine and_congr_right fun _ => ?_
  cases purpose <;> simp

/-- What a hint files under a purpose. -/
theorem filed_hintEntries {system : SoundSystem} {preferred : UInt32} (purpose : Purpose)
    {hint : Hint} {entries : List Entry}
    (found : (hintEntries system preferred hint).result = .ok entries) :
    filed purpose entries =
      (hintDevice? system preferred purpose hint).toList.map hintEntryOf := by
  unfold hintEntries at found
  unfold hintDevice?
  cases named : hint.name with
  | none =>
    simp only [named] at found
    obtain rfl := Except.ok.inj found
    rfl
  | some name =>
    simp only [named] at found
    cases excluded : Hint.isExcludedName name with
    | true =>
      rw [if_pos excluded] at found
      obtain rfl := Except.ok.inj found
      have leftOut := (Hint.isExcludedName_iff name).mp excluded
      simp [IsListed, leftOut, filed]
    | false =>
      rw [if_neg (by simp [excluded])] at found
      have keeps := (Hint.isExcludedName_eq_false_iff name).mp excluded
      have shown : String.ofList (shownText hint) = hint.shownDescription := by
        rw [← toList_shownDescription, String.ofList_toList]
      -- every round files one entry, under its own purpose
      let files (own : Purpose) : List Entry :=
        let device : Device := { name, description := hint.shownDescription, purpose := own,
                                 isRaw := false }
        [hintEntryOf (device.opened (system.openPcm name own) none preferred)]
      have each (own : Purpose) (entries : List Entry)
          (found : (hintEntry system preferred name hint.shownDescription own).result =
            .ok entries) :
          filed purpose entries = if own = purpose then files own else [] := by
        obtain rfl := Except.ok.inj found
        rw [Device.settled_probed]
        by_cases same : own = purpose
        · simp [filed, files, hintEntryOf, same]
        · simp [filed, same]
      rw [filed_of_collect each found, flatMap_purposes _ (nodup_devicePurposes hint)]
      simp only [IsListed, keeps, not_false_eq_true, true_and, ← mem_devicePurposes, shown]
      split <;> rfl

theorem filed_hintPass {system : SoundSystem} {preferred : UInt32} {entries : List Entry}
    (found : (hintPass system preferred).result = .ok entries) :
    ∃ hints, system.pcmHints = .ok hints ∧ ∀ purpose,
      filed purpose entries = (hintDevices system preferred purpose hints).map hintEntryOf := by
  obtain ⟨hints, answered, found, -⟩ := Traced.of_bind_ok found
  refine ⟨hints, answered, fun purpose => ?_⟩
  rw [filed_of_collect (fun hint entries found => filed_hintEntries purpose found) found,
    hintDevices, List.filterMap_eq_flatMap_toList, List.map_flatMap]

/-- What one direction of a card's device files. -/
theorem filed_rawEntry {system : SoundSystem} {preferred card : UInt32} {control : CardControl}
    {cardName : String} {pcm : UInt32} (purpose own : Purpose) {entries : List Entry}
    (found : (rawEntry system preferred card control cardName pcm own).result = .ok entries) :
    filed purpose entries =
      if own = purpose then
        (rawDevice? system preferred own card control cardName pcm).toList.map rawEntryOf
      else [] := by
  obtain ⟨pcmName, answered, found, -⟩ := Traced.of_bind_ok found
  have told : control.pcmName pcm own = .ok pcmName := answered
  unfold rawDevice?
  rw [told]
  cases pcmName with
  | none =>
    obtain rfl := Except.ok.inj found
    simp [filed]
  | some pcmName =>
    obtain rfl := Except.ok.inj found
    rw [Device.settled_probed]
    by_cases same : own = purpose
    · simp [filed, rawEntryOf, rawName, same]
    · simp [filed, same]

/-- What a card that is there files under a purpose. -/
theorem filed_cardEntries {system : SoundSystem} {preferred card : UInt32} {control : CardControl}
    (purpose : Purpose) (answered : system.openControl card = .ok (some control))
    {entries : List Entry}
    (found : (cardEntries system preferred card control).result = .ok entries) :
    filed purpose entries = (cardDevices system preferred purpose card).map rawEntryOf := by
  obtain ⟨cardName, named, found, -⟩ := Traced.of_bind_ok found
  obtain ⟨pcms, numbered, found, -⟩ := Traced.of_bind_ok found
  have told : control.cardName = .ok cardName := named
  have listed : control.pcmDevices = .ok pcms := numbered
  have each (pcm : UInt32) (entries : List Entry)
      (found : (Traced.collect (rawEntry system preferred card control cardName pcm)
        Purpose.all).result = .ok entries) :
      filed purpose entries =
        (rawDevice? system preferred purpose card control cardName pcm).toList.map rawEntryOf := by
    have both := filed_of_collect (fun own _ found => filed_rawEntry purpose own found) found
    rw [both, flatMap_purposes _ (by decide), if_pos (Purpose.mem_all purpose)]
  rw [filed_of_collect each found, cardDevices, answered]
  simp only [told, listed]
  rw [List.filterMap_eq_flatMap_toList, List.map_flatMap]

/-- What the cards in a list file under a purpose. -/
theorem filed_cardsEntries {system : SoundSystem} {preferred : UInt32} (purpose : Purpose)
    {cards : List UInt32} {entries : List Entry}
    (found : (cardsEntries system preferred cards).result = .ok entries) :
    filed purpose entries = (rawDevices system preferred purpose cards).map rawEntryOf := by
  induction cards generalizing entries with
  | nil =>
    obtain rfl := Except.ok.inj found
    rfl
  | cons card cards ih =>
    obtain ⟨control, opened, found, -⟩ := Traced.of_bind_ok found
    have answered : system.openControl card = .ok control := opened
    cases control with
    | none =>
      -- the card is gone, and with it all cards after it
      obtain rfl := Except.ok.inj found
      have gone : isThere system card = false := by simp [isThere, answered]
      rw [rawDevices, List.takeWhile_cons_of_neg (by simp [gone])]
      rfl
    | some control =>
      obtain ⟨head, tail, early, late, rfl, -⟩ := Traced.of_append_ok found
      have there : isThere system card = true := by simp [isThere, answered]
      rw [filed_append, filed_cardEntries purpose answered early, ih late, rawDevices,
        rawDevices, List.takeWhile_cons_of_pos there, List.flatMap_cons, List.map_append]

theorem filed_hardwarePass {system : SoundSystem} {preferred : UInt32} {entries : List Entry}
    (found : (hardwarePass system preferred).result = .ok entries) :
    ∃ cards, system.cards = .ok cards ∧ ∀ purpose,
      filed purpose entries = (rawDevices system preferred purpose cards).map rawEntryOf := by
  obtain ⟨cards, answered, found, -⟩ := Traced.of_bind_ok found
  exact ⟨cards, answered, fun purpose => filed_cardsEntries purpose found⟩

/-- A sweep that succeeds makes the list of each purpose from the devices behind the names on offer
and the raw devices. -/
theorem list_of_enumerate {system : SoundSystem} {preferred : UInt32} {snapshot : Snapshot}
    (found : enumerate system preferred = .ok snapshot) :
    ∃ hints cards, system.pcmHints = .ok hints ∧ system.cards = .ok cards ∧
      ∀ purpose, snapshot.list purpose =
        .ofEntries ((hintDevices system preferred purpose hints).map hintEntryOf ++
          (rawDevices system preferred purpose cards).map rawEntryOf) := by
  obtain ⟨named, raw, early, late, rfl, -⟩ := of_run_ok found
  obtain ⟨hints, offered, filesNamed⟩ := filed_hintPass early
  obtain ⟨cards, plugged, filesRaw⟩ := filed_hardwarePass late
  refine ⟨hints, cards, offered, plugged, fun purpose => ?_⟩
  rw [Snapshot.list_ofEntries, filed_append, filesNamed, filesRaw]

/-- The devices that a sweep can find for a purpose. Nothing but its labels is known of a device
before it is opened; a raw device is named by the path of its card and its number there, and the
maps of its hardware are known. -/
inductive Finds (system : SoundSystem) (preferred : UInt32) (purpose : Purpose) : Device → Prop
  | named (name description : String) :
      Finds system preferred purpose
        (Device.opened { name, description, purpose, isRaw := false }
          (system.openPcm name purpose) none preferred)
  | raw (card pcm : UInt32) (description : String) :
      Finds system preferred purpose
        (Device.opened { name := rawName card pcm, description, purpose, isRaw := true }
          (system.openPcm (rawName card pcm) purpose) (system.hwChannelMaps card pcm purpose)
          preferred)

theorem finds_of_hintDevice? {system : SoundSystem} {preferred : UInt32} {purpose : Purpose}
    {hint : Hint} {device : Device}
    (found : hintDevice? system preferred purpose hint = some device) :
    Finds system preferred purpose device := by
  unfold hintDevice? at found
  split at found
  · exact nomatch found
  · split at found
    · obtain rfl := Option.some.inj found
      exact .named _ _
    · exact nomatch found

theorem finds_of_rawDevice? {system : SoundSystem} {preferred : UInt32} {purpose : Purpose}
    {card pcm : UInt32} {control : CardControl} {cardName : String} {device : Device}
    (found : rawDevice? system preferred purpose card control cardName pcm = some device) :
    Finds system preferred purpose device := by
  unfold rawDevice? at found
  split at found
  · obtain rfl := Option.some.inj found
    exact .raw card pcm _
  · exact nomatch found

theorem finds_of_mem {system : SoundSystem} {preferred : UInt32} {purpose : Purpose}
    {hints : List Hint} {cards : List UInt32} {device : Device}
    (member : device ∈ hintDevices system preferred purpose hints ++
      rawDevices system preferred purpose cards) :
    Finds system preferred purpose device := by
  rcases List.mem_append.mp member with named | raw
  · obtain ⟨hint, -, found⟩ := List.mem_filterMap.mp named
    exact finds_of_hintDevice? found
  · obtain ⟨card, -, ofCard⟩ := List.mem_flatMap.mp raw
    unfold cardDevices at ofCard
    split at ofCard
    · split at ofCard
      · obtain ⟨pcm, -, found⟩ := List.mem_filterMap.mp ofCard
        exact finds_of_rawDevice? found
      · exact nomatch ofCard
    · exact nomatch ofCard

/-- The devices of one purpose, given the names on offer and the cards. -/
theorem devices_of_list {snapshot : Snapshot} {purpose : Purpose} {named raw : List Device}
    (made : snapshot.list purpose =
      .ofEntries (named.map hintEntryOf ++ raw.map rawEntryOf)) :
    snapshot.devices purpose = named ++ raw := by
  rw [Snapshot.devices, made, DeviceList.devices_ofEntries]
  simp [Function.comp_def, hintEntryOf, rawEntryOf]

/-- All devices of a sweep that succeeds are such as a sweep can find. -/
theorem finds_of_enumerate {system : SoundSystem} {preferred : UInt32} {snapshot : Snapshot}
    (found : enumerate system preferred = .ok snapshot) {purpose : Purpose} {device : Device}
    (member : device ∈ snapshot.devices purpose) : Finds system preferred purpose device := by
  obtain ⟨hints, cards, -, -, lists⟩ := list_of_enumerate found
  rw [devices_of_list (lists purpose)] at member
  exact finds_of_mem member

/-- Each device was given the answer to its own opening. -/
theorem exists_opened_of_mem {system : SoundSystem} {preferred : UInt32} {purpose : Purpose}
    {hints : List Hint} {cards : List UInt32} {device : Device}
    (member : device ∈ hintDevices system preferred purpose hints ++
      rawDevices system preferred purpose cards) :
    ∃ blank : Device, ∃ known, blank.probeError = none ∧
      device = blank.opened (system.openPcm blank.name purpose) known preferred := by
  cases finds_of_mem member with
  | named name description => exact ⟨_, _, rfl, rfl⟩
  | raw card pcm description => exact ⟨_, _, rfl, rfl⟩

/-- What a snapshot holds for one purpose, given the names on offer and the cards. -/
structure Reports (system : SoundSystem) (preferred : UInt32) (hints : List Hint)
    (cards : List UInt32) (snapshot : Snapshot) (purpose : Purpose) : Prop where
  devices : snapshot.devices purpose =
    hintDevices system preferred purpose hints ++ rawDevices system preferred purpose cards
  defaultAt : ∀ position, snapshot.defaultIndex purpose = some position ↔
    LastAt (fun device => "default:".toList <+: device.name.toList)
      (hintDevices system preferred purpose hints) position
  noDefault : snapshot.defaultIndex purpose = none ↔
    ∀ device ∈ hintDevices system preferred purpose hints,
      ¬"default:".toList <+: device.name.toList
  opens : Call.opens purpose (run system preferred).calls =
    (snapshot.devices purpose).map (·.name)
  failures : ∀ device ∈ snapshot.devices purpose, ∀ failure,
    device.probeError = some failure ↔ system.openPcm device.name purpose = .error failure

/-- A sweep that succeeds reports, for each purpose, what the answers of the system come to. -/
theorem reports_of_enumerate {system : SoundSystem} {preferred : UInt32} {snapshot : Snapshot}
    (found : enumerate system preferred = .ok snapshot) :
    ∃ hints cards, system.pcmHints = .ok hints ∧ system.cards = .ok cards ∧
      ∀ purpose, Reports system preferred hints cards snapshot purpose := by
  obtain ⟨named, raw, early, late, rfl, opens⟩ := of_run_ok found
  obtain ⟨hints, offered, filesNamed⟩ := filed_hintPass early
  obtain ⟨cards, plugged, filesRaw⟩ := filed_hardwarePass late
  refine ⟨hints, cards, offered, plugged, fun purpose => ?_⟩
  have files : filed purpose (named ++ raw) =
      (hintDevices system preferred purpose hints).map hintEntryOf ++
        (rawDevices system preferred purpose cards).map rawEntryOf := by
    rw [filed_append, filesNamed, filesRaw]
  have devices : (Snapshot.ofEntries (named ++ raw)).devices purpose =
      hintDevices system preferred purpose hints ++ rawDevices system preferred purpose cards := by
    rw [Snapshot.devices, Snapshot.list_ofEntries, DeviceList.devices_ofEntries, files,
      List.map_append, List.map_map, List.map_map]
    simp [Function.comp_def, hintEntryOf, rawEntryOf]
  have defaultAt (position : Nat) :
      (Snapshot.ofEntries (named ++ raw)).defaultIndex purpose = some position ↔
        LastAt (fun device => "default:".toList <+: device.name.toList)
          (hintDevices system preferred purpose hints) position := by
    have unmarked : ∀ entry ∈ (rawDevices system preferred purpose cards).map rawEntryOf,
        ¬entry.2 = true := by simp [rawEntryOf]
    rw [Snapshot.defaultIndex, Snapshot.list_ofEntries, DeviceList.defaultIndex_ofEntries, files,
      LastAt.append_of_not _ _ unmarked, LastAt.map_iff]
    simp only [hintEntryOf, Hint.isDefaultName, List.isPrefixOf_iff_prefix]
  refine ⟨devices, defaultAt, ?_, ?_, ?_⟩
  · rw [Option.eq_none_iff_forall_ne_some]
    simp only [ne_eq, defaultAt]
    rw [← not_exists, LastAt.exists_iff]
    simp
  · rw [opens, Snapshot.devices, Snapshot.list_ofEntries, DeviceList.devices_ofEntries,
      List.map_map]
    rfl
  · intro device member failure
    rw [devices] at member
    obtain ⟨blank, known, clean, rfl⟩ := exists_opened_of_mem member
    rw [Device.probeError_opened _ _ _ _ clean, Device.name_opened]

/-- A laptop with a card that is gone and one after it. Its default device does not record, an
output with open bounds is on offer for both purposes, and the output of its card can be mono or
stereo. -/
def laptop : Inventory where
  hints := [
    ⟨some "default:CARD=PCH", some "HDA Intel PCH\nDefault Audio Device", none⟩,
    ⟨some "null", none, none⟩,
    ⟨some "hdmi:CARD=PCH", some "HDMI Audio Output", none⟩]
  cards := [
    { index := 0, name := "PCH"
      pcms := [
        { device := 0
          output := { name := some "ALC295"
                      maps := some [[.frontCenter], [.frontLeft, .frontRight]] }
          input := { name := some "ALC295" } }] },
    { index := 1, gone := true },
    { index := 2, name := "USB", pcms := [{ device := 0, output := { name := some "DAC" } }] }]
  caps := [
    ("input default:CARD=PCH", .error (.openingDevice "default:CARD=PCH")),
    ("hdmi:CARD=PCH", .ok ⟨none, [[.frontCenter]], ⟨4000, 1⟩, ⟨192000, -1⟩⟩),
    ("output hw:0,0", .ok ⟨some [.lfe], [], .exact 44100, .exact 44100⟩)]

/-- What a sweep reports of the laptop. -/
def laptopDevices : Purpose → List Device
  | .output => [
    { name := "default:CARD=PCH", description := "HDA Intel PCH: Default Audio Device"
      purpose := .output, isRaw := false, layout := .ofRoles [.frontLeft, .frontRight]
      rateMin := 8000, rateMax := 192000, rateDefault := 48000 },
    { name := "hdmi:CARD=PCH", description := "HDMI Audio Output"
      purpose := .output, isRaw := false, layout := .ofRoles [.frontCenter]
      rateMin := 4001, rateMax := 191999, rateDefault := 48000 },
    { name := "hw:0,0", description := "PCH ALC295"
      purpose := .output, isRaw := true, layout := .ofRoles [.frontLeft, .frontRight]
      rateMin := 44100, rateMax := 44100, rateDefault := 44100 }]
  | .input => [
    { name := "default:CARD=PCH", description := "HDA Intel PCH: Default Audio Device"
      purpose := .input, isRaw := false
      probeError := some (.openingDevice "default:CARD=PCH") },
    { name := "hw:0,0", description := "PCH ALC295"
      purpose := .input, isRaw := true, layout := .ofRoles [.frontLeft, .frontRight]
      rateMin := 8000, rateMax := 192000, rateDefault := 48000 }]

theorem reports_of_enumerate_laptop :
    ∃ snapshot, enumerate laptop.system 48000 = .ok snapshot ∧
      (∀ purpose, snapshot.devices purpose = laptopDevices purpose) ∧
      snapshot.defaultIndex .output = some 0 := by
  have succeeds : (enumerate laptop.system 48000).toOption.isSome = true := by decide +kernel
  obtain ⟨snapshot, found⟩ : ∃ snapshot, enumerate laptop.system 48000 = .ok snapshot := by
    cases outcome : enumerate laptop.system 48000 with
    | error failure =>
      rw [outcome] at succeeds
      exact nomatch succeeds
    | ok snapshot => exact ⟨snapshot, rfl⟩
  obtain ⟨hints, cards, offered, plugged, reports⟩ := reports_of_enumerate found
  have names : laptop.system.pcmHints = .ok laptop.hints := rfl
  have indices : laptop.system.cards = .ok [0, 1, 2] := rfl
  obtain rfl := Except.ok.inj (offered.symm.trans names)
  obtain rfl := Except.ok.inj (plugged.symm.trans indices)
  refine ⟨snapshot, found, ?_, ?_⟩
  · intro purpose
    rw [(reports purpose).devices]
    cases purpose <;> decide +kernel
  · have offers : (hintDevices laptop.system 48000 .output laptop.hints).map (·.name) =
        ["default:CARD=PCH", "hdmi:CARD=PCH"] := by decide +kernel
    have byName : LastAt (fun name : String => "default:".toList <+: name.toList)
        ((hintDevices laptop.system 48000 .output laptop.hints).map (·.name)) 0 := by
      rw [offers]
      refine ⟨⟨_, rfl, by decide +kernel⟩, ?_⟩
      rintro (_ | _ | later) name past stands
      · exact nomatch past
      · obtain rfl := Option.some.inj stands
        decide +kernel
      · exact nomatch stands
    exact ((reports .output).defaultAt 0).mpr ((LastAt.map_iff Device.name _ 0).mp byName)

end Sweep

end SoundDevices
