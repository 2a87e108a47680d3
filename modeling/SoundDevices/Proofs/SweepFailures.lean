import SoundDevices.Proofs.SweepDevices

set_option autoImplicit false

namespace SoundDevices

def failureOf {α : Type} : Except Error α → Option Error
  | .ok _ => none
  | .error failure => some failure

@[simp] theorem failureOf_ok {α : Type} (value : α) :
    failureOf (.ok value : Except Error α) = none := rfl

@[simp] theorem failureOf_error {α : Type} (failure : Error) :
    failureOf (.error failure : Except Error α) = some failure := rfl

theorem failureOf_eq_some_iff {α : Type} (answer : Except Error α) (failure : Error) :
    failureOf answer = some failure ↔ answer = .error failure := by
  cases answer <;> simp

theorem failureOf_eq_none_iff {α : Type} (answer : Except Error α) :
    failureOf answer = none ↔ ∃ value, answer = .ok value := by
  cases answer <;> simp

/-- The questions of a list up to the first that fails, and that one. -/
def Call.untilFailure (fails : Call → Option Error) : List Call → List Call
  | [] => []
  | call :: rest => if fails call = none then call :: untilFailure fails rest else [call]

namespace Call

variable {fails : Call → Option Error}

theorem untilFailure_append_of_none {first : List Call} (none : first.findSome? fails = none)
    (rest : List Call) :
    untilFailure fails (first ++ rest) = first ++ untilFailure fails rest := by
  induction first with
  | nil => rfl
  | cons call first ih =>
    have answered := List.findSome?_eq_none_iff.mp none
    have later : first.findSome? fails = .none :=
      List.findSome?_eq_none_iff.mpr fun x member => answered x (List.mem_cons_of_mem _ member)
    rw [List.cons_append, untilFailure, if_pos (answered call List.mem_cons_self), ih later,
      List.cons_append]

theorem untilFailure_of_none {plan : List Call} (none : plan.findSome? fails = none) :
    untilFailure fails plan = plan := by
  have whole := untilFailure_append_of_none none []
  rw [List.append_nil] at whole
  rw [whole]
  exact List.append_nil plan

theorem untilFailure_append_of_some {first : List Call} {failure : Error}
    (some : first.findSome? fails = some failure) (rest : List Call) :
    untilFailure fails (first ++ rest) = untilFailure fails first := by
  induction first with
  | nil => exact nomatch some
  | cons call first ih =>
    rw [List.cons_append, untilFailure, untilFailure]
    by_cases answered : fails call = none
    · rw [List.findSome?_cons, answered] at some
      rw [if_pos answered, if_pos answered, ih some]
    · rw [if_neg answered, if_neg answered]

/-- A question of a list fails, and none of those before it. -/
structure FirstFailure (fails : Call → Option Error) (plan before : List Call) (call : Call)
    (failure : Error) : Prop where
  stands : ∃ after, plan = before ++ call :: after
  earlier : ∀ x ∈ before, fails x = none
  fails : fails call = some failure

theorem findSome?_eq_some_iff (plan : List Call) (failure : Error) :
    plan.findSome? fails = some failure ↔
      ∃ before call, FirstFailure fails plan before call failure := by
  rw [List.findSome?_eq_some_iff]
  constructor
  · rintro ⟨before, call, after, stands, failed, earlier⟩
    exact ⟨before, call, ⟨after, stands⟩, earlier, failed⟩
  · rintro ⟨before, call, ⟨after, stands⟩, earlier, failed⟩
    exact ⟨before, call, after, stands, failed, earlier⟩

theorem FirstFailure.untilFailure_eq {plan before : List Call} {call : Call} {failure : Error}
    (first : FirstFailure fails plan before call failure) :
    untilFailure fails plan = before ++ [call] := by
  obtain ⟨after, rfl⟩ := first.stands
  have answered : before.findSome? fails = none := List.findSome?_eq_none_iff.mpr first.earlier
  have failed : fails call ≠ none := by simp [first.fails]
  rw [untilFailure_append_of_none answered, untilFailure, if_neg failed]

end Call

namespace Traced

variable {α β : Type} {fails : Call → Option Error}

/-- The computation asks the questions of a list in order until one fails, and fails with that
one's failure; if none does, it has a result. -/
structure Follows (fails : Call → Option Error) (part : Traced α) (plan : List Call) : Prop where
  calls : part.calls = Call.untilFailure fails plan
  failure : failureOf part.result = plan.findSome? fails

namespace Follows

theorem pure (value : α) : Follows fails (pure value) [] := ⟨rfl, rfl⟩

theorem bind {first : Traced α} {next : α → Traced β} {before after : List Call}
    (early : Follows fails first before)
    (late : ∀ value, first.result = .ok value → Follows fails (next value) after) :
    Follows fails (first >>= next) (before ++ after) := by
  have decided := early.failure
  -- a failure of the first part falls into the first part of the list, which then decides alone
  cases outcome : first.result with
  | error failure =>
    rw [outcome, failureOf_error] at decided
    rw [bind_of_error first next failure outcome]
    refine ⟨?_, ?_⟩
    · rw [Call.untilFailure_append_of_some decided.symm]
      exact early.calls
    · rw [List.findSome?_append, ← decided]
      rfl
  | ok value =>
    rw [outcome, failureOf_ok] at decided
    have rest := late value outcome
    rw [bind_of_ok first next value outcome]
    refine ⟨?_, ?_⟩
    · show first.calls ++ (next value).calls = _
      rw [Call.untilFailure_append_of_none decided.symm, early.calls, rest.calls,
        Call.untilFailure_of_none decided.symm]
    · rw [List.findSome?_append, ← decided]
      exact rest.failure

theorem ask {call : Call} {answer : Except Error α} {next : α → Traced β} {after : List Call}
    (fatal : fails call = failureOf answer)
    (late : ∀ value, answer = .ok value → Follows fails (next value) after) :
    Follows fails (Traced.ask call answer >>= next) (call :: after) := by
  have one : Follows fails (Traced.ask call answer) [call] := by
    refine ⟨?_, ?_⟩
    · simp [Traced.ask, Call.untilFailure]
    · simp [Traced.ask, fatal]
  exact one.bind late

theorem note {call : Call} {answer : α} {next : α → Traced β} {after : List Call}
    (harmless : fails call = none) (late : Follows fails (next answer) after) :
    Follows fails (Traced.note call answer >>= next) (call :: after) := by
  show Follows fails (Traced.ask call (.ok answer) >>= next) (call :: after)
  refine ask harmless fun value told => ?_
  obtain rfl := Except.ok.inj told
  exact late

theorem append {first rest : Traced (List β)} {before after : List Call}
    (early : Follows fails first before) (late : Follows fails rest after) :
    Follows fails (first >>= fun head => rest >>= fun tail => Pure.pure (head ++ tail))
      (before ++ after) := by
  refine early.bind fun head _ => ?_
  have joined : Follows fails (rest >>= fun tail => Pure.pure (head ++ tail)) (after ++ []) :=
    late.bind fun tail _ => pure (head ++ tail)
  rwa [List.append_nil] at joined

/-- A loop asks what its rounds ask, one after the other. -/
theorem collect {next : α → Traced (List β)} {plan : α → List Call}
    (each : ∀ x, Follows fails (next x) (plan x)) (xs : List α) :
    Follows fails (Traced.collect next xs) (xs.flatMap plan) := by
  induction xs with
  | nil => exact pure []
  | cons x xs ih =>
    rw [collect_cons, List.flatMap_cons]
    exact (each x).append ih

end Follows

end Traced

/-- Two systems that answer alike to everything but the probes of devices: what a device can do
once it is opened, and which maps are known of its hardware. -/
structure SoundSystem.AlikeButForProbes (first second : SoundSystem) : Prop where
  pcmHints : first.pcmHints = second.pcmHints
  cards : first.cards = second.cards
  openControl : first.openControl = second.openControl

namespace Sweep

open Traced (Follows)

def told {α : Type} : Except Error (List α) → List α
  | .ok list => list
  | .error _ => []

def hintCalls (hint : Hint) : List Call :=
  match hint.name with
  | none => []
  | some name => (Purpose.all.filter (IsListed hint name ·)).map (.openPcm · name)

def streamCalls (card : UInt32) (control : CardControl) (pcm : UInt32) (purpose : Purpose) :
    List Call :=
  .pcmName card pcm purpose ::
    match control.pcmName pcm purpose with
    | .ok (some _) => [.hwChannelMaps card pcm purpose, .openPcm purpose (rawName card pcm)]
    | _ => []

def cardCalls (card : UInt32) (control : CardControl) : List Call :=
  .cardName card :: .pcmDevices card ::
    (told control.pcmDevices).flatMap fun pcm =>
      Purpose.all.flatMap (streamCalls card control pcm)

/-- The questions about the cards in a list, up to the first that is gone. -/
def cardsCalls (system : SoundSystem) : List UInt32 → List Call
  | [] => []
  | card :: cards =>
    .openControl card ::
      match system.openControl card with
      | .ok none => []
      | .ok (some control) => cardCalls card control ++ cardsCalls system cards
      | .error _ => cardsCalls system cards

/-- All questions of a sweep in order. -/
def inOrder (system : SoundSystem) : List Call :=
  (.pcmHints :: (told system.pcmHints).flatMap hintCalls) ++
    (.cards :: cardsCalls system (told system.cards))

/-- The failure of a question to a card, which is asked through its control. -/
def controlFailure? (system : SoundSystem) (card : UInt32)
    (failure? : CardControl → Option Error) : Option Error :=
  match system.openControl card with
  | .ok (some control) => failure? control
  | _ => none

/-- The failure of a question without whose answer there is no snapshot. -/
def fatal? (system : SoundSystem) : Call → Option Error
  | .pcmHints => failureOf system.pcmHints
  | .cards => failureOf system.cards
  | .openControl card => failureOf (system.openControl card)
  | .cardName card => controlFailure? system card fun control => failureOf control.cardName
  | .pcmDevices card => controlFailure? system card fun control => failureOf control.pcmDevices
  | .pcmName card pcm purpose =>
    controlFailure? system card fun control => failureOf (control.pcmName pcm purpose)
  | .hwChannelMaps .. => none
  | .openPcm .. => none

theorem controlFailure?_of_open {system : SoundSystem} {card : UInt32} {control : CardControl}
    (answered : system.openControl card = .ok (some control))
    (failure? : CardControl → Option Error) :
    controlFailure? system card failure? = failure? control := by
  rw [controlFailure?, answered]

/-- One device is opened, and the sweep goes on whatever comes of it. -/
theorem follows_probe (system : SoundSystem) (device : Device)
    (known : Option (List ChannelMap)) (preferred : UInt32) (isDefault : Bool) :
    Follows (fatal? system)
      (probe system device known preferred >>= fun outcome =>
        pure [(Device.settled outcome, isDefault)])
      [.openPcm device.purpose device.name] := by
  rw [probe_eq]
  exact ⟨rfl, rfl⟩

/-- A hint that is kept is opened for the purposes it is listed under, outputs first. -/
theorem devicePurposes_eq {hint : Hint} {name : String}
    (kept : ¬Hint.LeftOut name.toList) :
    hint.devicePurposes = Purpose.all.filter (IsListed hint name ·) := by
  have served : hint.purposes = Purpose.all.filter (· ∈ hint.purposes) := by
    unfold Hint.purposes
    rcases hint.direction with _ | _ | _ <;> rfl
  have listed (purpose : Purpose) :
      IsListed hint name purpose ↔ purpose ∈ hint.devicePurposes := by
    rw [mem_devicePurposes, IsListed]
    exact and_iff_right kept
  -- both sides leave purposes out of one list, so that the members tell the order
  have order : hint.devicePurposes = Purpose.all.filter (· ∈ hint.devicePurposes) := by
    rw [Hint.devicePurposes]
    nth_rewrite 1 [served]
    rw [List.filter_filter]
    refine List.filter_congr fun purpose _ => ?_
    rw [Bool.eq_iff_iff, Bool.and_eq_true, decide_eq_true_iff, decide_eq_true_iff,
      List.mem_filter, and_comm]
  rw [order]
  exact List.filter_congr fun purpose _ => decide_eq_decide.mpr (listed purpose).symm

theorem follows_hintEntries (system : SoundSystem) (preferred : UInt32) (hint : Hint) :
    Follows (fatal? system) (hintEntries system preferred hint) (hintCalls hint) := by
  unfold hintEntries hintCalls
  cases hint.name with
  | none => exact .pure []
  | some name =>
    cases excluded : Hint.isExcludedName name with
    | true =>
      have leftOut := (Hint.isExcludedName_iff name).mp excluded
      have unlisted : Purpose.all.filter (IsListed hint name ·) = [] := by
        rw [List.filter_eq_nil_iff]
        intro purpose _
        simp [IsListed, leftOut]
      simp only [excluded, if_true, unlisted]
      exact .pure []
    | false =>
      simp only [excluded, Bool.false_eq_true, if_false]
      have kept := (Hint.isExcludedName_eq_false_iff name).mp excluded
      rw [← devicePurposes_eq kept, List.map_eq_flatMap]
      exact .collect (fun purpose => follows_probe ..) _

theorem follows_hintPass (system : SoundSystem) (preferred : UInt32) :
    Follows (fatal? system) (hintPass system preferred)
      (.pcmHints :: (told system.pcmHints).flatMap hintCalls) := by
  refine .ask rfl fun hints answered => ?_
  rw [answered]
  exact .collect (follows_hintEntries system preferred) hints

theorem follows_rawEntry {system : SoundSystem} {card : UInt32} {control : CardControl}
    (there : system.openControl card = .ok (some control)) (preferred : UInt32)
    (cardName : String) (pcm : UInt32) (purpose : Purpose) :
    Follows (fatal? system) (rawEntry system preferred card control cardName pcm purpose)
      (streamCalls card control pcm purpose) := by
  refine .ask (controlFailure?_of_open there _) fun pcmName answered => ?_
  rw [answered]
  cases pcmName with
  | none => exact .pure []
  | some pcmName =>
    refine .note rfl ?_
    exact follows_probe ..

theorem follows_cardEntries {system : SoundSystem} {card : UInt32} {control : CardControl}
    (there : system.openControl card = .ok (some control)) (preferred : UInt32) :
    Follows (fatal? system) (cardEntries system preferred card control)
      (cardCalls card control) := by
  refine .ask (controlFailure?_of_open there _) fun cardName _ => ?_
  refine .ask (controlFailure?_of_open there _) fun pcms answered => ?_
  rw [answered]
  refine .collect (fun pcm => ?_) pcms
  exact .collect (follows_rawEntry there preferred cardName pcm) Purpose.all

theorem follows_cardsEntries (system : SoundSystem) (preferred : UInt32) (cards : List UInt32) :
    Follows (fatal? system) (cardsEntries system preferred cards) (cardsCalls system cards) := by
  induction cards with
  | nil => exact .pure []
  | cons card cards ih =>
    refine .ask rfl fun control answered => ?_
    rw [answered]
    cases control with
    | none => exact .pure []
    | some control => exact (follows_cardEntries answered preferred).append ih

theorem follows_hardwarePass (system : SoundSystem) (preferred : UInt32) :
    Follows (fatal? system) (hardwarePass system preferred)
      (.cards :: cardsCalls system (told system.cards)) := by
  refine .ask rfl fun cards answered => ?_
  rw [answered]
  exact follows_cardsEntries system preferred cards

theorem follows_run (system : SoundSystem) (preferred : UInt32) :
    Follows (fatal? system) (run system preferred) (inOrder system) := by
  refine (follows_hintPass system preferred).bind fun named _ => ?_
  have whole : Follows (fatal? system)
      (hardwarePass system preferred >>= fun raw => pure (Snapshot.ofEntries (named ++ raw)))
      ((.cards :: cardsCalls system (told system.cards)) ++ []) :=
    (follows_hardwarePass system preferred).bind fun raw _ => .pure _
  rwa [List.append_nil] at whole

/-- The questions about the cards in a list, as far as the controls of the cards decide them. -/
theorem cardsCalls_congr {first second : SoundSystem}
    (same : first.openControl = second.openControl) (cards : List UInt32) :
    cardsCalls first cards = cardsCalls second cards := by
  induction cards with
  | nil => rfl
  | cons card cards ih => rw [cardsCalls, cardsCalls, same, ih]

/-- What the devices answer to their probes decides no other question. -/
theorem inOrder_congr {first second : SoundSystem} (alike : first.AlikeButForProbes second) :
    inOrder first = inOrder second := by
  rw [inOrder, inOrder, alike.pcmHints, alike.cards, cardsCalls_congr alike.openControl]

theorem fatal?_congr {first second : SoundSystem} (alike : first.AlikeButForProbes second) :
    fatal? first = fatal? second := by
  have same (card : UInt32) (failure? : CardControl → Option Error) :
      controlFailure? first card failure? = controlFailure? second card failure? := by
    rw [controlFailure?, controlFailure?, alike.openControl]
  funext call
  cases call with
  | pcmHints => exact congrArg failureOf alike.pcmHints
  | cards => exact congrArg failureOf alike.cards
  | openControl card => exact congrArg (fun answers => failureOf (answers card)) alike.openControl
  | cardName card => exact same card _
  | pcmDevices card => exact same card _
  | pcmName card pcm purpose => exact same card _
  | hwChannelMaps card pcm purpose => rfl
  | openPcm purpose name => rfl

theorem inOrder_withOpenPcm (system : SoundSystem)
    (openPcm : String → Purpose → Except Error PcmCaps) :
    inOrder { system with openPcm } = inOrder system :=
  inOrder_congr ⟨rfl, rfl, rfl⟩

theorem fatal?_withOpenPcm (system : SoundSystem)
    (openPcm : String → Purpose → Except Error PcmCaps) :
    fatal? { system with openPcm } = fatal? system :=
  fatal?_congr ⟨rfl, rfl, rfl⟩

/-- A sweep fails if a question in its order does, other than the opening of a device, and then
with the failure of the first of these and after no other question. What the devices answer to
being opened decides neither what is asked nor whether the sweep fails. -/
theorem fails_with_first_failure (system : SoundSystem) (preferred : UInt32) :
    (∀ failure, enumerate system preferred = .error failure ↔
      ∃ before call,
        Call.FirstFailure (fatal? system) (inOrder system) before call failure) ∧
    (∀ before call failure,
      Call.FirstFailure (fatal? system) (inOrder system) before call failure →
        (run system preferred).calls = before ++ [call]) ∧
    ((∀ call ∈ inOrder system, fatal? system call = none) →
      ∃ snapshot, enumerate system preferred = .ok snapshot ∧
        (run system preferred).calls = inOrder system) ∧
    ∀ openPcm : String → Purpose → Except Error PcmCaps,
      (run { system with openPcm } preferred).calls = (run system preferred).calls ∧
        ∀ failure, enumerate { system with openPcm } preferred = .error failure ↔
          enumerate system preferred = .error failure := by
  have decided := follows_run system preferred
  have fails (failure : Error) : enumerate system preferred = .error failure ↔
      (inOrder system).findSome? (fatal? system) = some failure := by
    rw [← decided.failure, failureOf_eq_some_iff, enumerate]
  refine ⟨?_, ?_, ?_, ?_⟩
  · intro failure
    rw [fails, Call.findSome?_eq_some_iff]
  · intro before call failure first
    rw [decided.calls, first.untilFailure_eq]
  · intro answered
    have none := List.findSome?_eq_none_iff.mpr answered
    have succeeds := decided.failure
    rw [none, failureOf_eq_none_iff] at succeeds
    obtain ⟨snapshot, found⟩ := succeeds
    exact ⟨snapshot, found, decided.calls.trans (Call.untilFailure_of_none none)⟩
  · intro openPcm
    have other := follows_run { system with openPcm } preferred
    rw [inOrder_withOpenPcm, fatal?_withOpenPcm] at other
    refine ⟨other.calls.trans decided.calls.symm, fun failure => ?_⟩
    rw [fails, ← other.failure, failureOf_eq_some_iff, enumerate]

/-- The only device of the first card does not open for want of memory, which ends nothing; the
second card does not tell its name, and the third is not asked for. -/
example :
    run { cards := [
            { index := 0, name := "PCH"
              pcms := [{ device := 0, output := { name := some "ALC295" } }] },
            { index := 1, infoError := some .noMemory },
            { index := 2, name := "USB" }]
          caps := [("hw:0,0", .error .noMemory)] : Inventory }.system 48000 =
      ⟨[.pcmHints, .cards, .openControl 0, .cardName 0, .pcmDevices 0, .pcmName 0 0 .output,
        .hwChannelMaps 0 0 .output, .openPcm .output "hw:0,0", .pcmName 0 0 .input,
        .openControl 1, .cardName 1], .error .noMemory⟩ := by
  rfl

end Sweep

end SoundDevices
