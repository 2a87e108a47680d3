import SoundDevices.Proofs.Journeys
import SoundDevices.Proofs.Shutdown

set_option autoImplicit false

namespace SoundDevices

open PublishedState (Act handedOut published ready_replay replay sinceTake withFate_sublist)

namespace Monitor

/-- A flush enters, takes, calls back if it has taken a snapshot, and is over then. -/
theorem Move.point_of_inFlush {awaitsDiscovery stop : Bool} {before after : Monitor}
    {shared left : SharedSnapshot} (move : Move awaitsDiscovery stop before shared after left)
    (rest : Option UInt64) :
    (before.point = .flushing rest → after.point = .taking rest) ∧
    (before.point = .taking rest →
      after.point = .notifying rest ∨ after.point = afterFlush rest) ∧
    (before.point = .notifying rest → after.point = afterFlush rest) := by
  cases move with
  | look seen stands => simp [stands]
  | enter own stands free => simp [stands]
  | takeNothing own stands nothing =>
    refine ⟨by simp [stands], fun takes => Or.inr ?_, by simp [stands]⟩
    rw [MonitorPoint.taking.inj (stands.symm.trans takes)]
  | takeSnapshot own snapshot stands waits =>
    refine ⟨by simp [stands], fun takes => Or.inl ?_, by simp [stands]⟩
    rw [MonitorPoint.taking.inj (stands.symm.trans takes)]
  | callBack own stands =>
    refine ⟨by simp [stands], by simp [stands], fun notifies => ?_⟩
    rw [MonitorPoint.notifying.inj (stands.symm.trans notifies)]
  | leave seen stands moved => simp [stands]

/-- All that a monitor tells is what one snapshot tells, or that nothing is there. -/
structure AnswersFrom (monitor : Monitor) (source : Option Snapshot) : Prop where
  current : monitor.current = source
  count (purpose : Purpose) :
    monitor.count purpose = (source.map (·.count purpose)).getD 0
  device? (purpose : Purpose) (index : Nat) :
    monitor.device? purpose index = source.bind (·.device? purpose index)
  defaultDevice (purpose : Purpose) :
    monitor.defaultDevice purpose = source.bind (·.defaultDevice purpose)
  defaultIndex (purpose : Purpose) :
    monitor.defaultIndex purpose = source.bind (·.defaultIndex purpose)

theorem answersFrom_current (monitor : Monitor) : monitor.AnswersFrom monitor.current := by
  obtain ⟨current, notified, point⟩ := monitor
  cases current with
  | none => exact ⟨rfl, fun _ => rfl, fun _ _ => rfl, fun _ => rfl, fun _ => rfl⟩
  | some snapshot => exact ⟨rfl, fun _ => rfl, fun _ _ => rfl, fun _ => rfl, fun _ => rfl⟩

end Monitor

namespace Reader

section Flushes

variable {first last : Reader} {history : List Occasion}

/-- The reader takes nothing in a history, nor tries to. -/
def Untaken (history : List Occasion) : Prop :=
  ∀ occasion ∈ history, occasion.act? ≠ some .take

theorem Untaken.concat {occasion : Occasion} (untaken : Untaken history)
    (other : occasion.act? ≠ some .take) : Untaken (history ++ [occasion]) := by
  intro member among
  rcases List.mem_append.mp among with earlier | now
  · exact untaken member earlier
  · rw [List.mem_singleton.mp now]
    exact other

theorem Untaken.taken_eq (untaken : Untaken history) : taken history = [] := by
  refine List.filterMap_eq_nil_iff.mpr fun occasion among => ?_
  unfold Occasion.taken?
  cases does : occasion.act? with
  | none => rfl
  | some act =>
    cases act with
    | take => exact absurd does (untaken occasion among)
    | publish snapshot => rfl
    | signal => rfl

/-- In a call a monitor gets on by its own steps only. -/
theorem Occurs.point_eq {reader after : Reader} {occasion : Occasion}
    (occurs : Occurs reader occasion after) (busy : reader.monitor.point ≠ .idle) :
    (after.monitor.point = reader.monitor.point ∧ occasion.act? ≠ some .take) ∨
      ∃ stop shared, occasion = ⟨reader, .move stop⟩ ∧
        Monitor.Move reader.backend.awaitsDiscovery stop reader.monitor reader.backend.shared
          after.monitor shared := by
  obtain ⟨step⟩ := occurs
  cases step with
  | beginFlush idle => exact absurd idle busy
  | beginWait idle => exact absurd idle busy
  | move stop monitor shared awake steps =>
    exact Or.inr ⟨stop, shared, rfl, Monitor.move_of_step? steps⟩
  | publish snapshot => exact Or.inl ⟨rfl, nofun⟩
  | signal => exact Or.inl ⟨rfl, nofun⟩
  | wakeUp sleeps => exact Or.inl ⟨rfl, nofun⟩
  | fallAsleep awake inside held => exact Or.inl ⟨rfl, nofun⟩

/-- How far a flush has come: it has yet to take what is there, or has done so once. -/
inductive FlushStage (first : Reader) (rest : Option UInt64) : List Occasion → Reader → Prop
  | ahead {history : List Occasion} {last : Reader} (untaken : Untaken history)
      (stands : last.monitor.point = .flushing rest ∨ last.monitor.point = .taking rest) :
      FlushStage first rest history last
  | past {early late : List Occasion} {taker last : Reader} {stop : Bool}
      (journey : Journey first early taker) (takes : taker.monitor.point = .taking rest)
      (before : Untaken early) (since : Untaken late)
      (stands : last.monitor.point = .notifying rest ∨
        last.monitor.point = Monitor.afterFlush rest) :
      FlushStage first rest (early ++ ⟨taker, .move stop⟩ :: late) last

theorem Journey.flushStage {rest : Option UInt64} (journey : Journey first history last)
    (begins : first.monitor.point = .flushing rest)
    (within : ∀ occasion ∈ history, occasion.found.monitor.point.inFlush = true) :
    FlushStage first rest history last := by
  induction journey with
  | start => exact .ahead (fun _ among => absurd among List.not_mem_nil) (Or.inl begins)
  | @step history state after occasion journey next ih =>
    have stage := ih fun member among => within member (List.mem_append_left _ among)
    have inside : state.monitor.point.inFlush = true := by
      obtain ⟨step⟩ := next
      exact within _ (List.mem_append_right _ List.mem_cons_self)
    have busy : state.monitor.point ≠ .idle := by
      intro idle
      rw [idle] at inside
      exact Bool.false_ne_true inside
    -- what others do leaves the stage, and a step of its own takes the reader to the next
    rcases next.point_eq busy with ⟨kept, other⟩ | ⟨stop, shared, rfl, move⟩
    · cases stage with
      | ahead untaken stands =>
        rw [← kept] at stands
        exact .ahead (untaken.concat other) stands
      | past early takes before since stands =>
        rw [← kept] at stands
        rw [List.append_assoc]
        exact .past early takes before (since.concat other) stands
    · obtain ⟨enters, takes, callsBack⟩ := move.point_of_inFlush rest
      cases stage with
      | ahead untaken stands =>
        rcases stands with flushes | taking
        · refine .ahead (untaken.concat ?_) (Or.inr (enters flushes))
          simp [Occasion.act?, flushes]
        · exact .past journey taking untaken (fun _ among => absurd among List.not_mem_nil)
            (takes taking)
      | past early taking before since stands =>
        rcases stands with notifies | ended
        · rw [List.append_assoc]
          refine .past early taking before (since.concat ?_) (Or.inr (callsBack notifies))
          simp [Occasion.act?, notifies]
        · rw [ended, MonitorPoint.inFlush_afterFlush] at inside
          exact absurd inside Bool.false_ne_true

/-- A whole flush: the reader stands in it from its beginning on, and has left it in the end. -/
structure Flush (first : Reader) (rest : Option UInt64) (history : List Occasion) (last : Reader) :
    Prop where
  begins : first.monitor.point = .flushing rest
  journey : Journey first history last
  within : ∀ occasion ∈ history, occasion.found.monitor.point.inFlush = true
  ended : last.monitor.point.inFlush = false

/-- A flush takes once, and delivers what it then finds. -/
theorem Flush.delivers {rest : Option UInt64} (flush : Flush first rest history last) :
    ∃ early taker stop late, history = early ++ ⟨taker, .move stop⟩ :: late ∧
      Journey first early taker ∧ taker.monitor.point = .taking rest ∧ Untaken early ∧
      last.monitor.notified = first.monitor.notified ++ taker.backend.shared.ready.toList ∧
      last.monitor.current = taker.backend.shared.ready.or first.monitor.current := by
  obtain ⟨begins, journey, within, ended⟩ := flush
  have quiet : last.monitor.pending = none := by
    refine Monitor.pending_eq_none fun rest notifies => ?_
    rw [notifies] at ended
    exact nomatch ended
  have unbegun : first.monitor.pending = none := by
    refine Monitor.pending_eq_none fun rest notifies => ?_
    exact nomatch begins.symm.trans notifies
  have called := journey.notified_eq
  have installed := journey.current_eq
  cases journey.flushStage begins within with
  | ahead untaken stands =>
    -- whoever has not taken yet still stands in the flush
    exfalso
    rcases stands with flushes | taking
    · rw [flushes] at ended
      exact nomatch ended
    · rw [taking] at ended
      exact nomatch ended
  | @past early late taker _ stop toTaker takes before since stands =>
    have single : taken (early ++ ⟨taker, .move stop⟩ :: late) =
        taker.backend.shared.ready.toList := by
      rw [taken_append, before.taken_eq, List.nil_append, ← List.singleton_append, taken_append,
        since.taken_eq, List.append_nil, taken_singleton, Occasion.taken?_of_taking takes]
    rw [quiet, unbegun, single] at called
    rw [single] at installed
    refine ⟨early, taker, stop, late, rfl, toTaker, takes, before, ?_, ?_⟩
    · simpa using called
    · rw [installed]
      cases taker.backend.shared.ready <;> rfl

end Flushes

/-- The two backends as a monitor finds them, with what has been done to their published state. -/
inductive Opened : Backend → List (Act Snapshot) → Prop
  | hotplug (session : WatchSession) : Opened (.ofPipeline (.started session)) []
  | dummy : Opened .dummy [.publish dummySnapshot]

section Backends

variable {backend : Backend} {opening : List (Act Snapshot)} {history : List Occasion}
  {last : Reader}

theorem Opened.shared_eq (opened : Opened backend opening) :
    backend.shared = replay {} opening := by
  cases opened <;> rfl

theorem Opened.handedOut_eq (opened : Opened backend opening) : handedOut opening = [] := by
  cases opened <;> rfl

theorem Opened.untaken (opened : Opened backend opening) :
    ∀ act ∈ opening, act.isTake = false := by
  cases opened with
  | hotplug session => exact fun _ among => absurd among List.not_mem_nil
  | dummy =>
    intro act among
    rw [List.mem_singleton.mp among]
    rfl

theorem Opened.shared_after (opened : Opened backend opening)
    (journey : Journey { backend } history last) :
    last.backend.shared = replay {} (opening ++ acts history) := by
  rw [Journey.shared_eq journey, opened.shared_eq]
  exact (List.foldl_append ..).symm

/-- The snapshots that a reader takes are some of the published ones, in the same order. -/
theorem Opened.taken_sublist (opened : Opened backend opening)
    (journey : Journey { backend } history last) :
    (taken history).Sublist (published (opening ++ acts history)) := by
  have same := Journey.handedOut_eq journey opened.shared_eq
  rw [opened.handedOut_eq, List.nil_append, PublishedState.handedOut_eq] at same
  rw [← same]
  exact withFate_sublist _ _

/-- Before the reader has taken anything, all that was published is new to it. -/
theorem Opened.sinceTake_eq (opened : Opened backend opening) (untaken : Untaken history) :
    sinceTake (opening ++ acts history) = opening ++ acts history := by
  refine List.rtakeWhile_eq_self_iff.mpr fun act among => ?_
  rcases List.mem_append.mp among with before | since
  · rw [opened.untaken act before]
    rfl
  · obtain ⟨occasion, member, does⟩ := List.mem_filterMap.mp since
    have other := untaken occasion member
    rw [does] at other
    cases act with
    | take => exact absurd rfl other
    | publish snapshot => rfl
    | signal => rfl

theorem Untaken.of_inFlush_eq_false
    (outside : ∀ occasion ∈ history, occasion.found.monitor.point.inFlush = false) :
    Untaken history := by
  intro occasion among does
  have stands := outside occasion among
  unfold Occasion.act? at does
  split at does <;> try cases does
  split at does <;> cases does
  rename_i takes
  rw [takes] at stands
  exact nomatch stands

/-- Before a reader has taken anything from a backend whose discovery has to be waited for, it finds
a snapshot when it comes to take. -/
theorem Opened.first_take (opened : Opened backend opening)
    (journey : Journey { backend } history last) (untaken : Untaken history)
    {rest : Option UInt64} (takes : last.monitor.point = .taking rest)
    (awaits : backend.awaitsDiscovery = true) :
    ∃ snapshot, last.backend.shared.ready = some snapshot := by
  have entered := (journey.inOrder (.of_ne nofun nofun)).entered rest takes
    (journey.run.awaitsDiscovery_eq.trans awaits)
  have shared := opened.shared_after journey
  rw [shared, PublishedState.discovered_replay] at entered
  obtain ⟨snapshot, among⟩ := entered.resolve_left Bool.false_ne_true
  have found : snapshot ∈ published (opening ++ acts history) :=
    List.mem_filterMap.mpr ⟨_, among, rfl⟩
  rw [shared, ready_replay, opened.sinceTake_eq untaken]
  exact Option.isSome_iff_exists.mp (List.getLast?_isSome.mpr (List.ne_nil_of_mem found))

/-- A monitor calls back exactly once for each snapshot that it takes, in order, and only the
snapshot taken last may be yet to be called back. A call finds its snapshot installed. The snapshots
called back are some of the published ones, in the same order. But for the moment between installing
a snapshot and calling back for it, a monitor answers from the snapshot that it called back last,
whatever has been published since. A flush takes once: it makes no call and changes nothing if
nothing has been published since the take before, and otherwise makes one call, for the newest; the
first flush of a backend whose discovery has to be waited for always makes one. -/
theorem callbacks_are_exactly_once_in_order {past : List Occasion} {reader : Reader}
    (opened : Opened backend opening) (journey : Journey { backend } past reader) :
    (taken past = reader.monitor.notified ++ reader.monitor.pending.toList ∧
      ∀ event after, Step reader event after →
        after.monitor.notified = reader.monitor.notified ∨
        ∃ snapshot, taken past = reader.monitor.notified ++ [snapshot] ∧
          after.monitor.notified = reader.monitor.notified ++ [snapshot] ∧
          reader.monitor.current = some snapshot ∧ after.monitor.current = some snapshot) ∧
    reader.monitor.notified.Sublist (published (opening ++ acts past)) ∧
    ((∀ rest, reader.monitor.point ≠ .notifying rest) →
      reader.monitor.AnswersFrom reader.monitor.notified.getLast?) ∧
    ∀ rest history after, Flush reader rest history after →
      ∃ early taker stop late, history = early ++ ⟨taker, .move stop⟩ :: late ∧
        taker.monitor.point = .taking rest ∧ Untaken early ∧
        (published (sinceTake (opening ++ acts (past ++ early))) = [] →
          after.monitor.notified = reader.monitor.notified ∧
          after.monitor.current = reader.monitor.current) ∧
        (∀ snapshot,
          (published (sinceTake (opening ++ acts (past ++ early)))).getLast? = some snapshot →
          after.monitor.notified = reader.monitor.notified ++ [snapshot] ∧
          after.monitor.current = some snapshot) ∧
        (backend.awaitsDiscovery = true →
          (∀ occasion ∈ past, occasion.found.monitor.point.inFlush = false) →
          ∃ snapshot, after.monitor.notified = [snapshot]) := by
  have called : taken past = reader.monitor.notified ++ reader.monitor.pending.toList :=
    journey.notified_eq.symm
  have installed : reader.monitor.current = (taken past).getLast? := by
    rw [journey.current_eq, Option.or_none]
  refine ⟨⟨called, fun event after step => ?_⟩, ?_, fun quiet => ?_, ?_⟩
  · refine step.notified_eq.imp_right ?_
    rintro ⟨⟨rest, stands⟩, grown, kept⟩
    obtain ⟨snapshot, current⟩ :=
      (journey.inOrder (.of_ne nofun nofun)).installed rest stands
    rw [Monitor.pending_of_notifying stands, current] at called
    rw [current] at grown kept
    exact ⟨snapshot, called, grown, current, kept⟩
  · have sublist := opened.taken_sublist journey
    rw [called] at sublist
    exact (List.sublist_append_left _ _).trans sublist
  · rw [Monitor.pending_eq_none quiet, Option.toList_none, List.append_nil] at called
    rw [← called, ← installed]
    exact reader.monitor.answersFrom_current
  · intro rest history after flush
    obtain ⟨early, taker, stop, late, parts, toTaker, takes, untaken, notified, current⟩ :=
      flush.delivers
    have whole := journey.trans toTaker
    have found := congrArg PublishedState.ready (opened.shared_after whole)
    rw [ready_replay] at found
    refine ⟨early, taker, stop, late, parts, takes, untaken, fun nothing => ?_,
      fun snapshot newest => ?_, fun awaits first => ?_⟩
    · rw [found, nothing] at notified current
      exact ⟨by simpa using notified, current⟩
    · rw [found, newest] at notified current
      exact ⟨notified, current⟩
    · have unread := Untaken.of_inFlush_eq_false first
      have earlier : Untaken (past ++ early) := fun occasion among =>
        (List.mem_append.mp among).elim (unread occasion) (untaken occasion)
      obtain ⟨snapshot, waits⟩ := opened.first_take whole earlier takes awaits
      rw [unread.taken_eq] at called
      have uncalled := (List.append_eq_nil_iff.mp called.symm).1
      rw [waits, uncalled] at notified
      exact ⟨snapshot, notified⟩

/-- A hotplug backend publishes while its monitor takes for the first time, before and after. The
first flush makes one call, and what came too late for it is left to the next one. -/
theorem callbacks_are_exactly_once_in_order_first_flush :
    ∃ past reader flush after,
      Journey { backend := .ofPipeline (.started {}) } past reader ∧
      Flush reader none flush after ∧ published (acts (past ++ flush)) = [{}, dummySnapshot] ∧
      after.backend.shared.ready = some dummySnapshot ∧ after.monitor.notified.length = 1 := by
  let opened : Reader := { backend := .ofPipeline (.started {}) }
  let flushing : Reader := { opened with monitor := opened.monitor.beginFlush }
  let taking : Reader := ⟨⟨"alsa", true, ⟨some {}, 1, true⟩⟩, ⟨none, [], .taking none⟩, false⟩
  let after : Reader :=
    ⟨⟨"alsa", true, ⟨some dummySnapshot, 2, true⟩⟩, ⟨some {}, [{}], .idle⟩, false⟩
  have past : Journey opened [⟨opened, .beginFlush⟩] flushing :=
    Trace.start.step (.of (.beginFlush _ rfl))
  have enters : Journey flushing _ taking :=
    Trace.start.step (.of (.publish _ {})) |>.step (.of (.move _ false _ _ rfl rfl))
  have leaves : Journey flushing _ after :=
    enters.step (.of (.move _ false _ _ rfl rfl)) |>.step (.of (.publish _ dummySnapshot))
      |>.step (.of (.move _ false _ _ rfl rfl))
  have flush : Flush flushing none _ after := ⟨rfl, leaves, List.all_eq_true.mp rfl, rfl⟩
  obtain ⟨-, -, -, delivers⟩ := callbacks_are_exactly_once_in_order (.hotplug {}) past
  obtain ⟨_, _, _, _, -, -, -, -, -, first⟩ := delivers none _ after flush
  obtain ⟨snapshot, notified⟩ := first rfl (List.forall_mem_singleton.mpr rfl)
  refine ⟨_, _, _, _, past, flush, rfl, rfl, ?_⟩
  rw [notified]
  rfl

end Backends

end Reader

namespace Hotplug

theorem Event.act?_eq_take_iff {event : Event} : event.act? = some .take ↔ event = .take := by
  cases event with
  | scene event => cases published : event.published? <;> simp [act?, published]
  | shutdown stood => cases stood <;> simp [act?]
  | signal => simp [act?]
  | take => simp [act?]

/-- What a backend does on its own is to its monitor a publication, a signal, or nothing. -/
theorem Step.reader_step {hotplug after : Hotplug} {event : Event}
    (step : Step hotplug event after) (others : event ≠ .take) (monitor : Monitor)
    (asleep : Bool) :
    after.reader monitor = hotplug.reader monitor ∨
      ∃ arrival, Reader.Event.arrives arrival = true ∧
        Reader.Step { hotplug.reader monitor with asleep } arrival (after.reader monitor) := by
  have reads (other : Hotplug) :
      other.reader monitor = ⟨⟨"alsa", true, other.shared⟩, monitor, false⟩ := rfl
  rw [reads, reads, step.shared_eq]
  cases does : event.act? with
  | none => exact Or.inl rfl
  | some act =>
    refine Or.inr ?_
    cases act with
    | publish snapshot => exact ⟨.publish snapshot, rfl, .publish _ snapshot⟩
    | signal => exact ⟨.signal, rfl, .signal _⟩
    | take => exact absurd (Event.act?_eq_take_iff.mp does) others

end Hotplug

end SoundDevices
