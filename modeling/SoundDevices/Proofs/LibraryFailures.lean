import SoundDevices.Alsa.Script
import SoundDevices.Proofs.SweepFailures

set_option autoImplicit false

namespace SoundDevices

inductive ErrorKind where
  | noMemory
  | systemResources
  | openingDevice
  deriving DecidableEq, Repr

def Error.kind : Error → ErrorKind
  | noMemory => .noMemory
  | systemResources _ => .systemResources
  | openingDevice _ => .openingDevice

/-- Two first results are the same if their first parts are, and if the rest is wherever the first
parts have none. -/
theorem or_congr {α : Type} {first second rest other : Option α} (same : first = second)
    (alike : first = none → rest = other) : first.or rest = second.or other := by
  subst same
  cases first with
  | none => exact alike rfl
  | some value => rfl

theorem findSome?_flatMap_congr {α β γ δ : Type} {first : β → Option δ} {second : γ → Option δ}
    {left : α → List β} {right : α → List γ} (xs : List α)
    (same : ∀ x ∈ xs, (left x).findSome? first = (right x).findSome? second) :
    (xs.flatMap left).findSome? first = (xs.flatMap right).findSome? second := by
  induction xs with
  | nil => rfl
  | cons x xs ih =>
    rw [List.flatMap_cons, List.flatMap_cons, List.findSome?_append, List.findSome?_append]
    refine or_congr (same x List.mem_cons_self) fun _ => ?_
    exact ih fun y member => same y (List.mem_cons_of_mem x member)

namespace Alsa

namespace Walk

/-- The steps of a walk onto a number, up to the step that ends it. -/
def onward (walk : Walk) : List (Int32 × Int32) := walk.steps.takeWhile fun step => 0 ≤ step.2

/-- The numbers that a walk yields if none of its steps fails. -/
def yields (walk : Walk) : List UInt32 := walk.onward.map fun step => step.2.toUInt32

/-- The code of the step that ends a walk. -/
def closingCode (walk : Walk) : Int32 :=
  ((walk.steps.find? fun step => step.2 < 0).map (·.1)).getD walk.endCode

def codes (walk : Walk) : List Int32 := walk.onward.map (·.1) ++ [walk.closingCode]

variable (steps : List (Int32 × Int32)) (endCode : Int32) {code number : Int32}

theorem codes_nil : codes ⟨[], endCode⟩ = [endCode] := rfl

theorem yields_nil : yields ⟨[], endCode⟩ = [] := rfl

theorem codes_cons_of_neg (ends : number < 0) :
    codes ⟨(code, number) :: steps, endCode⟩ = [code] := by
  have stays : ¬ 0 ≤ number := Int32.not_le.mpr ends
  simp [codes, onward, closingCode, ends, stays]

theorem yields_cons_of_neg (ends : number < 0) :
    yields ⟨(code, number) :: steps, endCode⟩ = [] := by
  have stays : ¬ 0 ≤ number := Int32.not_le.mpr ends
  simp [yields, onward, stays]

theorem codes_cons (goesOn : 0 ≤ number) :
    codes ⟨(code, number) :: steps, endCode⟩ = code :: codes ⟨steps, endCode⟩ := by
  have within : ¬ number < 0 := Int32.not_lt.mpr goesOn
  simp [codes, onward, closingCode, goesOn, within]

theorem yields_cons (goesOn : 0 ≤ number) :
    yields ⟨(code, number) :: steps, endCode⟩ =
      number.toUInt32 :: yields ⟨steps, endCode⟩ := by
  simp [yields, onward, goesOn]

/-- A walk fails with the first of its steps that does, and else yields its numbers. -/
theorem numbers_eq (walk : Walk) (function : Function) :
    walk.numbers function =
      match walk.codes.find? (· < 0) with
      | some code => .error ⟨function, -code⟩
      | none => .ok walk.yields := by
  obtain ⟨steps, endCode⟩ := walk
  show walkNumbers function endCode steps = _
  induction steps with
  | nil =>
    rw [codes_nil, yields_nil, walkNumbers]
    by_cases failed : endCode < 0 <;> simp [failed]
  | cons step rest ih =>
    obtain ⟨code, number⟩ := step
    rw [walkNumbers]
    by_cases ends : number < 0
    · rw [codes_cons_of_neg rest endCode ends, yields_cons_of_neg rest endCode ends]
      by_cases failed : code < 0 <;> simp [failed, ends]
    · have goesOn := Int32.not_lt.mp ends
      rw [codes_cons rest endCode goesOn, yields_cons rest endCode goesOn, if_neg ends]
      by_cases failed : code < 0
      · simp [failed]
      · rw [if_neg failed, ih, List.find?_cons_of_neg (by simpa using failed)]
        cases (codes ⟨rest, endCode⟩).find? (· < 0) <;> rfl

/-- The failure of a walk, in the terms of an error. -/
theorem failureOf_numbers (walk : Walk) (function : Function) (toError : Failure → Error) :
    failureOf ((walk.numbers function).mapError toError) =
      walk.codes.findSome? fun code =>
        if code < 0 then some (toError ⟨function, -code⟩) else none := by
  rw [numbers_eq]
  induction walk.codes with
  | nil => rfl
  | cons code codes ih =>
    by_cases failed : code < 0
    · simp [failed, Except.mapError]
    · simpa [failed] using ih

theorem numbers_of_failureOf_eq_none {walk : Walk} {function : Function}
    {toError : Failure → Error}
    (answered : failureOf ((walk.numbers function).mapError toError) = none) :
    (walk.numbers function).mapError toError = .ok walk.yields := by
  rw [numbers_eq] at answered ⊢
  cases found : walk.codes.find? (· < 0) with
  | none => rfl
  | some code => simp [found, Except.mapError] at answered

end Walk

/-- The calls of a sweep whose return codes decide whether it fails. -/
inductive NativeCall where
  | hints
  | cardNext
  | controlOpen (card : UInt32)
  | allocateCardInfo (card : UInt32)
  | cardInfo (card : UInt32)
  | nextDevice (card : UInt32)
  | allocatePcmInfo (card device : UInt32) (purpose : Purpose)
  | pcmInfo (card device : UInt32) (purpose : Purpose)
  deriving DecidableEq, Repr

/-- The call may find that what it asks for is not there, which is no failure. -/
def NativeCall.mayFindNothing : NativeCall → Bool
  | controlOpen _ | pcmInfo .. => true
  | _ => false

/-- A call and the code that it returns. -/
structure Return where
  call : NativeCall
  code : Int32
  deriving DecidableEq, Repr

namespace Return

/-- The code is negative, and does not only say that what the call asks for is not there. -/
def Fails (answer : Return) : Prop :=
  answer.code < 0 ∧ ¬ (answer.code = notFoundCode ∧ answer.call.mayFindNothing = true)

instance (answer : Return) : Decidable answer.Fails :=
  inferInstanceAs (Decidable (_ ∧ _))

/-- The kind of error that a failing call is. A list of hints, and memory, cannot be had for want of
memory alone; for all else the number 12 says so. -/
def kind (answer : Return) : ErrorKind :=
  match answer.call with
  | .hints | .allocateCardInfo _ | .allocatePcmInfo .. => .noMemory
  | .controlOpen _ => if answer.code = -12 then .noMemory else .openingDevice
  | .cardNext | .cardInfo _ | .nextDevice _ | .pcmInfo .. =>
    if answer.code = -12 then .noMemory else .systemResources

end Return

namespace Library

variable (library : Library)

def error (answer : Return) : Error :=
  match answer.call with
  | .hints | .allocateCardInfo _ | .allocatePcmInfo .. => .noMemory
  | .cardNext => library.errorOf .systemResources "card iteration" ⟨.cardNext, -answer.code⟩
  | .controlOpen card =>
    library.errorOf .openingDevice ("hw:" ++ toString card.toNat) ⟨.controlOpen, -answer.code⟩
  | .cardInfo card =>
    library.errorOf .systemResources ("card " ++ toString card.toNat ++ " info")
      ⟨.cardInfo, -answer.code⟩
  | .nextDevice card =>
    library.errorOf .systemResources ("card " ++ toString card.toNat ++ " devices")
      ⟨.nextDevice, -answer.code⟩
  | .pcmInfo card device purpose =>
    library.errorOf .systemResources
      ("hw:" ++ toString card.toNat ++ "," ++ toString device.toNat ++ " " ++ purpose.label ++
        " info")
      ⟨.pcmInfo, -answer.code⟩

def error? (answer : Return) : Option Error :=
  if answer.Fails then some (library.error answer) else none

theorem error?_of_certain (answer : Return) (certain : answer.call.mayFindNothing = false) :
    library.error? answer = if answer.code < 0 then some (library.error answer) else none := by
  simp [error?, Return.Fails, certain]

theorem error?_of_found (answer : Return) (found : answer.code ≠ notFoundCode) :
    library.error? answer = if answer.code < 0 then some (library.error answer) else none := by
  simp [error?, Return.Fails, found]

theorem error?_of_notFound (answer : Return) (absent : answer.code = notFoundCode)
    (mayFindNothing : answer.call.mayFindNothing = true) : library.error? answer = none := by
  simp [error?, Return.Fails, absent, mayFindNothing]

/-- The kind of error that a failure is, if its function does more than to set memory aside. -/
theorem kind_errorOf (function : Function) (code : Int32) (kind : String → Error)
    (what : String) (plain : function.isAllocation = false) :
    (library.errorOf kind what ⟨function, -code⟩).kind =
      if code = -12 then .noMemory
      else (kind (what ++ ": " ++ library.shown ⟨function, -code⟩)).kind := by
  have number : ((-code == 12) = true) ↔ code = -12 := by
    rw [beq_iff_eq]
    exact Int32.neg_inj (b := -12)
  by_cases twelve : code = -12
  · simp [errorOf, twelve, Error.kind]
  · simp [errorOf, plain, mt number.mp twelve, twelve]

theorem kind_error (answer : Return) : (library.error answer).kind = answer.kind := by
  obtain ⟨call, code⟩ := answer
  cases call with
  | hints => rfl
  | allocateCardInfo card => rfl
  | allocatePcmInfo card device purpose => rfl
  | cardNext => exact library.kind_errorOf _ _ _ _ rfl
  | controlOpen card => exact library.kind_errorOf _ _ _ _ rfl
  | cardInfo card => exact library.kind_errorOf _ _ _ _ rfl
  | nextDevice card => exact library.kind_errorOf _ _ _ _ rfl
  | pcmInfo card device purpose => exact library.kind_errorOf _ _ _ _ rfl

def streamReturns (card device : UInt32) (purpose : Purpose) : List Return :=
  [⟨.allocatePcmInfo card device purpose, library.pcmInfoAllocation card device purpose⟩,
    ⟨.pcmInfo card device purpose, (library.pcmInfo card device purpose).1⟩]

def nameReturns (card : UInt32) : List Return :=
  [⟨.allocateCardInfo card, library.cardInfoAllocation card⟩,
    ⟨.cardInfo card, (library.cardInfo card).1⟩]

def cardReturns (card : UInt32) : List Return :=
  library.nameReturns card ++ (library.devices card).codes.map (⟨.nextDevice card, ·⟩) ++
    (library.devices card).yields.flatMap fun device =>
      Purpose.all.flatMap (library.streamReturns card device)

/-- The calls about the cards in a list, up to the first that is gone. -/
def cardsReturns : List UInt32 → List Return
  | [] => []
  | card :: cards =>
    ⟨.controlOpen card, library.controlCode card⟩ ::
      if library.controlCode card = notFoundCode then []
      else library.cardReturns card ++ cardsReturns cards

/-- The calls of a sweep in order: the hints, the walk over the cards, and then card by card. -/
def returns : List Return :=
  ⟨.hints, library.hintCode⟩ :: library.cards.codes.map (⟨.cardNext, ·⟩) ++
    library.cardsReturns library.cards.yields

theorem failureOf_pcmHints :
    failureOf library.pcmHints = library.error? ⟨.hints, library.hintCode⟩ := by
  rw [library.error?_of_certain _ rfl, pcmHints]
  by_cases failed : library.hintCode < 0 <;> simp [failed, error]

theorem failureOf_cardNumbers :
    failureOf library.cardNumbers =
      (library.cards.codes.map (Return.mk .cardNext)).findSome? library.error? := by
  rw [cardNumbers, Walk.failureOf_numbers, List.findSome?_map]
  refine congrArg (List.findSome? · _) (funext fun code => ?_)
  exact (library.error?_of_certain ⟨.cardNext, code⟩ rfl).symm

theorem failureOf_pcmDevices (card : UInt32) :
    failureOf (library.pcmDevices card) =
      ((library.devices card).codes.map (Return.mk (.nextDevice card))).findSome?
        library.error? := by
  rw [pcmDevices, Walk.failureOf_numbers, List.findSome?_map]
  refine congrArg (List.findSome? · _) (funext fun code => ?_)
  exact (library.error?_of_certain ⟨.nextDevice card, code⟩ rfl).symm

theorem failureOf_cardName (card : UInt32) :
    failureOf (library.cardName card) = (library.nameReturns card).findSome? library.error? := by
  rw [nameReturns, List.findSome?_cons, List.findSome?_singleton,
    library.error?_of_certain _ rfl, library.error?_of_certain _ rfl, cardName]
  by_cases unallocated : library.cardInfoAllocation card < 0
  · simp only [firstFailure_cons, unallocated, if_true, failureOf_error]
    rw [library.errorOf_of_isAllocation _ _ rfl]
    rfl
  · by_cases failed : (library.cardInfo card).1 < 0 <;>
      simp [firstFailure_cons, unallocated, failed, error]

theorem failureOf_pcmName (card device : UInt32) (purpose : Purpose) :
    failureOf (library.pcmName card device purpose) =
      (library.streamReturns card device purpose).findSome? library.error? := by
  rw [streamReturns, List.findSome?_cons, List.findSome?_singleton,
    library.error?_of_certain _ rfl, pcmName]
  by_cases unallocated : library.pcmInfoAllocation card device purpose < 0
  · simp [unallocated, error]
  · rw [if_neg unallocated, if_neg unallocated]
    by_cases absent : (library.pcmInfo card device purpose).1 = notFoundCode
    · rw [library.error?_of_notFound _ absent rfl]
      simp [absent]
    · rw [library.error?_of_found _ absent]
      by_cases failed : (library.pcmInfo card device purpose).1 < 0 <;>
        simp [absent, failed, check, error]

/-- What asking for the control of a card comes to: the card is gone, or the call fails, or the
control answers for the card. -/
theorem openControl_cases (card : UInt32) :
    (library.controlCode card = notFoundCode ∧ library.openControl card = .ok none ∧
      library.error? ⟨.controlOpen card, library.controlCode card⟩ = none) ∨
    (∃ failure, library.openControl card = .error failure ∧
      library.error? ⟨.controlOpen card, library.controlCode card⟩ = some failure) ∨
    (library.controlCode card ≠ notFoundCode ∧
      library.openControl card = .ok (some
        { cardName := library.cardName card
          pcmDevices := library.pcmDevices card
          pcmName := library.pcmName card }) ∧
      library.error? ⟨.controlOpen card, library.controlCode card⟩ = none) := by
  unfold openControl
  by_cases gone : library.controlCode card = notFoundCode
  · refine Or.inl ⟨gone, if_pos gone, ?_⟩
    exact library.error?_of_notFound _ gone rfl
  · rw [library.error?_of_found _ gone]
    right
    by_cases failed : library.controlCode card < 0
    · left
      simp [gone, failed, check, error]
    · right
      simp [gone, failed, check]

/-- The questions about one direction of a card's device fail as the calls behind them do. -/
theorem findSome?_streamCalls {card : UInt32} {control : CardControl}
    (there : library.system.openControl card = .ok (some control))
    (answers : control.pcmName = library.pcmName card) (device : UInt32) (purpose : Purpose) :
    (Sweep.streamCalls card control device purpose).findSome? (Sweep.fatal? library.system) =
      (library.streamReturns card device purpose).findSome? library.error? := by
  have named : Sweep.fatal? library.system (.pcmName card device purpose) =
      failureOf (library.pcmName card device purpose) := by
    rw [← answers]
    exact Sweep.controlFailure?_of_open there _
  rw [← failureOf_pcmName, ← named, Sweep.streamCalls, List.findSome?_cons]
  cases Sweep.fatal? library.system (.pcmName card device purpose) with
  | some failure => rfl
  | none =>
    -- whatever follows the name of a stream is harmless
    cases control.pcmName device purpose with
    | error failure => rfl
    | ok streamName => cases streamName <;> rfl

/-- The questions about a card that is there fail as the calls behind them do. -/
theorem findSome?_cardCalls {card : UInt32} {control : CardControl}
    (there : library.system.openControl card = .ok (some control))
    (named : control.cardName = library.cardName card)
    (listed : control.pcmDevices = library.pcmDevices card)
    (answers : control.pcmName = library.pcmName card) :
    (Sweep.cardCalls card control).findSome? (Sweep.fatal? library.system) =
      (library.cardReturns card).findSome? library.error? := by
  have name : Sweep.fatal? library.system (.cardName card) =
      (library.nameReturns card).findSome? library.error? := by
    rw [← failureOf_cardName, ← named]
    exact Sweep.controlFailure?_of_open there _
  have devices : Sweep.fatal? library.system (.pcmDevices card) =
      failureOf (library.pcmDevices card) := by
    rw [← listed]
    exact Sweep.controlFailure?_of_open there _
  show List.findSome? _ ([Call.cardName card] ++ ([Call.pcmDevices card] ++ _)) = _
  rw [cardReturns, List.append_assoc, List.findSome?_append, List.findSome?_append,
    List.findSome?_append, List.findSome?_append, List.findSome?_singleton,
    List.findSome?_singleton]
  refine or_congr name fun _ => or_congr (devices.trans (library.failureOf_pcmDevices card)) ?_
  intro answered
  -- the walk has not failed, so that it yields the devices that the questions go on with
  have walked : control.pcmDevices = .ok (library.devices card).yields := by
    rw [listed]
    exact Walk.numbers_of_failureOf_eq_none (devices ▸ answered)
  rw [walked]
  refine findSome?_flatMap_congr _ fun device _ => findSome?_flatMap_congr _ fun purpose _ => ?_
  exact library.findSome?_streamCalls there answers device purpose

theorem findSome?_cardsCalls (cards : List UInt32) :
    (Sweep.cardsCalls library.system cards).findSome? (Sweep.fatal? library.system) =
      (library.cardsReturns cards).findSome? library.error? := by
  induction cards with
  | nil => rfl
  | cons card cards ih =>
    have opened : Sweep.fatal? library.system (.openControl card) =
        failureOf (library.openControl card) := rfl
    rw [Sweep.cardsCalls, cardsReturns, List.findSome?_cons, List.findSome?_cons, opened]
    rcases library.openControl_cases card with
      ⟨gone, absent, harmless⟩ | ⟨failure, failed, fails⟩ | ⟨there, found, harmless⟩
    · have answer : library.system.openControl card = .ok none := absent
      rw [absent, harmless, answer, if_pos gone]
      rfl
    · rw [failed, fails]
      rfl
    · have answer : library.system.openControl card = _ := found
      rw [found, harmless, answer, if_neg there, failureOf_ok]
      show List.findSome? _ (_ ++ _) = List.findSome? _ (_ ++ _)
      rw [List.findSome?_append, List.findSome?_append]
      exact or_congr (library.findSome?_cardCalls answer rfl rfl rfl) fun _ => ih

/-- To open the devices behind a hint is harmless. -/
theorem findSome?_hintCalls (system : SoundSystem) (hint : Hint) :
    (Sweep.hintCalls hint).findSome? (Sweep.fatal? system) = none := by
  rw [List.findSome?_eq_none_iff]
  intro call member
  unfold Sweep.hintCalls at member
  split at member
  · exact nomatch member
  · obtain ⟨purpose, -, rfl⟩ := List.mem_map.mp member
    rfl

/-- The questions of a sweep fail as the calls behind them do. -/
theorem findSome?_inOrder :
    (Sweep.inOrder library.system).findSome? (Sweep.fatal? library.system) =
      library.returns.findSome? library.error? := by
  have opens : ((Sweep.told library.system.pcmHints).flatMap Sweep.hintCalls).findSome?
      (Sweep.fatal? library.system) = none := by
    rw [List.findSome?_eq_none_iff]
    intro call member
    obtain ⟨hint, -, asked⟩ := List.mem_flatMap.mp member
    exact List.findSome?_eq_none_iff.mp (findSome?_hintCalls _ hint) call asked
  have questions : Sweep.inOrder library.system =
      [.pcmHints] ++ (Sweep.told library.system.pcmHints).flatMap Sweep.hintCalls ++
        ([.cards] ++ Sweep.cardsCalls library.system (Sweep.told library.system.cards)) := rfl
  have calls : library.returns =
      [⟨.hints, library.hintCode⟩] ++ library.cards.codes.map (⟨.cardNext, ·⟩) ++
        library.cardsReturns library.cards.yields := rfl
  rw [questions, calls]
  simp only [List.findSome?_append, List.findSome?_singleton, opens, Option.or_none,
    Option.or_assoc]
  refine or_congr library.failureOf_pcmHints fun _ => ?_
  refine or_congr library.failureOf_cardNumbers fun answered => ?_
  have walked : library.system.cards = .ok library.cards.yields :=
    Walk.numbers_of_failureOf_eq_none answered
  rw [walked]
  exact library.findSome?_cardsCalls library.cards.yields

theorem failureOf_enumerate (preferred : UInt32) :
    failureOf (enumerate library.system preferred) = library.returns.findSome? library.error? := by
  rw [← findSome?_inOrder]
  exact (Sweep.follows_run library.system preferred).failure

theorem enumerate_eq_error_iff (preferred : UInt32) (failure : Error) :
    enumerate library.system preferred = .error failure ↔
      library.returns.findSome? library.error? = some failure := by
  rw [← library.failureOf_enumerate preferred, failureOf_eq_some_iff]

/-- The calls of a sweep do not depend on how its devices are opened. -/
theorem cardsReturns_withPcm (pcm : String → Purpose → PcmAnswers)
    (paramsAllocation : String → Purpose → Int32) (cards : List UInt32) :
    cardsReturns { library with pcm, paramsAllocation } cards = library.cardsReturns cards := by
  induction cards with
  | nil => rfl
  | cons card cards ih =>
    rw [cardsReturns, cardsReturns, ih]
    rfl

/-- A sweep over the library fails if one of its calls fails, other than those that open a device
and ask for its rates, and then with the error of the first that does. -/
theorem fails_with_first_failing_return (preferred : UInt32) :
    (∀ failure, enumerate library.system preferred = .error failure ↔
      ∃ before answer after, library.returns = before ++ answer :: after ∧
        (∀ earlier ∈ before, ¬ earlier.Fails) ∧ answer.Fails ∧ failure = library.error answer) ∧
    ((∃ failure, enumerate library.system preferred = .error failure) ↔
      ∃ answer ∈ library.returns, answer.Fails) ∧
    (∀ answer : Return, (library.error answer).kind = answer.kind) ∧
    ∀ pcm paramsAllocation failure,
      enumerate (system { library with pcm, paramsAllocation }) preferred = .error failure ↔
        enumerate library.system preferred = .error failure := by
  have harmless (answer : Return) : library.error? answer = none ↔ ¬ answer.Fails := by
    simp [error?]
  have fails (answer : Return) (failure : Error) :
      library.error? answer = some failure ↔ answer.Fails ∧ failure = library.error answer := by
    simp [error?, eq_comm]
  refine ⟨fun failure => ?_, ?_, library.kind_error, fun pcm paramsAllocation failure => ?_⟩
  · rw [enumerate_eq_error_iff, List.findSome?_eq_some_iff]
    simp only [harmless, fails]
    constructor
    · rintro ⟨before, answer, after, stands, ⟨failed, same⟩, earlier⟩
      exact ⟨before, answer, after, stands, earlier, failed, same⟩
    · rintro ⟨before, answer, after, stands, earlier, failed, same⟩
      exact ⟨before, answer, after, stands, ⟨failed, same⟩, earlier⟩
  · simp only [enumerate_eq_error_iff, ← Option.isSome_iff_exists, List.findSome?_isSome_iff]
    simp only [Option.isSome_iff_exists, fails, exists_and_left, exists_eq, and_true]
  · rw [enumerate_eq_error_iff, enumerate_eq_error_iff]
    have same : returns { library with pcm, paramsAllocation } = library.returns := by
      unfold returns
      rw [cardsReturns_withPcm]
    have alike : error? { library with pcm, paramsAllocation } = library.error? := rfl
    rw [same, alike]

/-- The device of the first card does not open for want of memory, and the second card is gone, so
that the third is not asked for: nothing of this is a failure. -/
example :
    failureOf (enumerate (Script.library
      { cards := [{ index := 0, pcms := [{ device := 0, output := some {} }] },
          { index := 1, openCode := -2 }, { index := 2, openCode := -13 }]
        allocationCodes := [("snd_pcm_hw_params_malloc", -12)] }).system 48000) = none := by
  rfl

end Library

end Alsa

end SoundDevices
