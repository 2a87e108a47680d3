import SoundDevices.Proofs.SupervisedRuns
import SoundDevices.Proofs.Wakeups

set_option autoImplicit false

/- The interrupt of a worker. A wake that comes before the worker has noted the count does not end
the wait that follows; but the worker looks at the flag after it has noted the count, so it does not
come to wait then. Once it has looked and found the flag down, both steps are still to come, and the
wake moves the count that it has noted.

A worker that is to stop spends what it has left: each step brings it nearer to its end, and it
enters no new call. -/
namespace SoundDevices

namespace Supervised

/-- The count that the worker's monitor has noted is past, by what has arrived since. If the monitor
has looked at the flag since and both steps of the interrupt are done, something has. -/
def Noted (state : Supervised) (arrivals : Nat) : Prop :=
  ∀ seen, state.worker.monitor.point.seen? = some seen →
    ∃ since ≤ arrivals,
      state.worker.backend.shared.signals = seen + UInt64.ofNat since ∧
      (state.worker.monitor.point ≠ .counted seen → state.interrupt = .done → 0 < since)

theorem Noted.step {state after : Supervised} {event : Event} {arrivals : Nat}
    (noted : state.Noted arrivals) (kept : state.InLoop) (step : Step state event after) :
    after.Noted (arrivals + [event].countP Event.arrives) := by
  have counted : after.worker.backend.shared.signals =
      state.worker.backend.shared.signals + UInt64.ofNat ([event].countP Event.arrives) := by
    rw [countP_arrives]
    exact Reader.Run.signals_eq (Run.reader (Trace.start.step step) kept)
  intro seen notes
  -- all steps but a new call keep the noted count
  have carried (same : state.worker.monitor.point.seen? = some seen)
      (looked : after.worker.monitor.point ≠ .counted seen → after.interrupt = .done →
        state.worker.monitor.point ≠ .counted seen ∧ state.interrupt = .done ∨
          event.arrives = true) :
      ∃ since ≤ arrivals + [event].countP Event.arrives,
        after.worker.backend.shared.signals = seen + UInt64.ofNat since ∧
        (after.worker.monitor.point ≠ .counted seen → after.interrupt = .done → 0 < since) := by
    obtain ⟨since, few, signals, moved⟩ := noted seen same
    refine ⟨since + [event].countP Event.arrives, by omega, ?_, fun uncounted done => ?_⟩
    · rw [counted, signals, UInt64.ofNat_add, UInt64.add_assoc]
    · rcases looked uncounted done with ⟨before, ended⟩ | arrives
      · have positive := moved before ended
        omega
      · rw [List.countP_singleton, if_pos arrives]
        omega
  cases step with
  | publish snapshot => exact carried notes fun looked done => Or.inl ⟨looked, done⟩
  | wake => exact carried notes fun looked done => Or.inl ⟨looked, done⟩
  | raiseStop uncalled => exact carried notes fun _ done => nomatch done
  | stopWake flagged => exact carried notes fun _ _ => Or.inr rfl
  | wakeUp sleeps => exact carried notes fun looked done => Or.inl ⟨looked, done⟩
  | fallAsleep awake inside held => exact carried notes fun looked done => Or.inl ⟨looked, done⟩
  | own worker awake steps =>
    cases Worker.move_of_step? steps with
    | look asks => exact carried notes fun looked done => Or.inl ⟨looked, done⟩
    | comeBack inside idle => exact carried notes fun looked done => Or.inl ⟨looked, done⟩
    | call calls =>
      obtain rfl := Option.some.inj notes
      exact ⟨0, Nat.zero_le _, (UInt64.add_zero _).symm, fun looked => absurd rfl looked⟩
    | goOn monitor shared inside busy next =>
      have move := Monitor.move_of_step? next
      rcases move.seen?_eq with same | none
      · refine carried (same.symm.trans notes) fun looked done => Or.inl ⟨fun counts => ?_, done⟩
        -- it has just looked at the flag, and has not found it up
        simp only [Monitor.step?, counts] at next
        cases next
        have called : state.interrupt ≠ .uncalled := by
          intro uncalled
          exact nomatch uncalled.symm.trans done
        rw [kept.flagged.mpr called] at notes
        cases notes
      · rw [none] at notes
        cases notes

theorem Run.noted {backend : Backend} {events : List Event} {last : Supervised}
    (run : Run { worker := { backend } } events last) :
    last.Noted (events.countP Event.arrives) := by
  induction run with
  | start => exact fun seen notes => nomatch notes
  | @step events state after event run next ih =>
    rw [List.countP_append]
    exact ih.step (Run.inLoop run (.fresh backend)) next

/-- Where the first discovery is still to come nothing has been published. -/
theorem Run.unpublished {first last : Supervised} {events : List Event}
    (run : Run first events last) (kept : first.InLoop)
    (undiscovered : last.worker.backend.shared.discovered = false) :
    first.worker.backend.shared.discovered = false ∧ ∀ snapshot, .publish snapshot ∉ events := by
  have reads := run.reader kept
  refine ⟨?_, fun snapshot published => ?_⟩
  · by_contra discovered
    have known := reads.discovered_of_discovered (Bool.not_eq_false _ ▸ discovered)
    exact Bool.false_ne_true (undiscovered.symm.trans known)
  · have seen : .publish snapshot ∈ events.filterMap Event.reader? :=
      List.mem_filterMap.mpr ⟨_, published, rfl⟩
    exact Bool.false_ne_true (undiscovered.symm.trans (reads.discovered_of_publish seen))

/-- A worker that cannot go on after an interrupt has ended, or waits for the first discovery. -/
theorem Run.of_isStuck {backend : Backend} {events : List Event} {last : Supervised}
    (run : Run { worker := { backend } } events last)
    (few : events.countP Event.arrives < UInt64.size) (done : last.interrupt = .done)
    (stuck : last.IsStuck) :
    last.worker.point = .closed ∨
      last.worker.point = .inside ∧ (∃ rest, last.worker.monitor.point = .flushing rest) ∧
        backend.awaitsDiscovery = true ∧ last.worker.backend.shared.discovered = false := by
  refine (Worker.step?_eq_none_iff.mp (run.step?_eq_none stuck)).imp_right ?_
  rintro ⟨inside, ⟨rest, flushes, awaits, undiscovered⟩ | waits⟩
  · have same := Reader.Run.awaitsDiscovery_eq (run.reader (.fresh backend))
    exact ⟨inside, ⟨rest, flushes⟩, same.symm.trans awaits, undiscovered⟩
  · exfalso
    obtain ⟨since, bound, signals, moved⟩ := run.noted _ (congrArg MonitorPoint.seen? waits)
    have nothing := (PublishedState.add_ofNat_eq_self_iff (Nat.lt_of_le_of_lt bound few)).mp
      signals.symm
    have uncounted : last.worker.monitor.point ≠ .counted last.worker.backend.shared.signals := by
      rw [waits]
      exact nofun
    exact absurd nothing (Nat.ne_of_gt (moved uncounted done))

/-- A budget is a bound on what a worker may still do once it is to stop, by where it stands. No
step of others changes it, so a run takes no more of it than there is, if every step of the worker's
own pays for what it does. -/
theorem Run.countP_add_le (budget : WorkerPoint → Monitor → Nat) (costs : Event → Bool)
    (free : ∀ event, costs event = true → event.isOwn = true)
    (pays : ∀ before after, Worker.Move before after → before.stop = true →
      (costs (.own before)).toNat + budget after.point after.monitor ≤
        budget before.point before.monitor)
    {first last : Supervised} {events : List Event} (run : Run first events last)
    (stops : first.worker.stop = true) :
    last.worker.stop = true ∧
      events.countP costs + budget last.worker.point last.worker.monitor ≤
        budget first.worker.point first.worker.monitor := by
  induction run with
  | start => exact ⟨stops, by simp⟩
  | @step events state after event _ next ih =>
    obtain ⟨stopping, within⟩ := ih
    have idle (other : event.isOwn = false) :
        (events ++ [event]).countP costs = events.countP costs := by
      have costless : costs event ≠ true := fun cost => by
        rw [free event cost] at other
        exact nomatch other
      rw [List.countP_append, List.countP_singleton, if_neg costless, Nat.add_zero]
    -- only a step of its own costs the worker anything
    cases next with
    | own worker awake steps =>
      have move := Worker.move_of_step? steps
      have paid := pays _ _ move stopping
      refine ⟨move.stop_eq.trans stopping, ?_⟩
      rw [List.countP_append, List.countP_singleton]
      cases cost : costs (.own state.worker) with
      | false =>
        simp only [cost, Bool.toNat_false] at paid
        simp only [Bool.false_eq_true, if_false]
        omega
      | true =>
        simp only [cost, Bool.toNat_true] at paid
        simp only [if_true]
        omega
    | raiseStop uncalled =>
      rw [idle rfl]
      exact ⟨rfl, within⟩
    | _ =>
      rw [idle rfl]
      exact ⟨stopping, within⟩

/-- How many steps of its own a worker takes at most, once it is to stop. -/
def stepsLeft : WorkerPoint → Monitor → Nat
  | .closed, _ => 0
  | .asking, _ => 1
  | .calling, _ => 4
  | .inside, monitor =>
    match monitor.point with
    | .idle => 2
    | .counted _ | .waiting _ => 3
    | .notifying _ => 4
    | .taking _ => 5
    | .flushing _ => 6

/-- How many flushes a worker enters at most, once it is to stop. -/
def flushesLeft (point : WorkerPoint) (monitor : Monitor) : Nat :=
  match point, monitor.point with
  | .inside, .flushing _ => 1
  | _, _ => 0

/-- How often a worker will have called back at most in the end, once it is to stop. -/
def callsInAll : WorkerPoint → Monitor → Nat
  | .inside, monitor => monitor.notified.length + monitor.point.inFlush.toNat
  | _, monitor => monitor.notified.length

def Event.entersFlush : Event → Bool
  | own worker =>
    match worker.point, worker.monitor.point with
    | .inside, .flushing _ => true
    | _, _ => false
  | _ => false

/-- Once a worker is to stop, each of its steps brings it nearer to its end, enters a flush only if
one is left, and calls back only if a flush is under way. -/
theorem budgets_of_move {before after : Worker} (move : Worker.Move before after)
    (stops : before.stop = true) :
    stepsLeft after.point after.monitor < stepsLeft before.point before.monitor ∧
    (Event.entersFlush (.own before)).toNat + flushesLeft after.point after.monitor ≤
      flushesLeft before.point before.monitor ∧
    callsInAll after.point after.monitor ≤ callsInAll before.point before.monitor := by
  simp only [stepsLeft, Event.entersFlush, flushesLeft, callsInAll]
  cases move with
  | look asks => simp [Worker.goTo, asks, stops]
  | call calls => simp [Monitor.beginWait, MonitorPoint.inFlush, calls]
  | comeBack inside idle => simp [Worker.goTo, inside, idle]
  | goOn monitor shared inside busy next =>
    simp only [Worker.withShared, inside]
    cases Monitor.move_of_step? next with
    | look seen stands => simp [MonitorPoint.inFlush, stands, stops]
    | enter rest stands free => simp [MonitorPoint.inFlush, stands]
    | takeNothing rest stands nothing =>
      cases rest <;> simp [MonitorPoint.inFlush, Monitor.afterFlush, stands]
    | takeSnapshot rest snapshot stands waits => simp [MonitorPoint.inFlush, stands]
    | callBack rest stands =>
      cases rest <;> simp [MonitorPoint.inFlush, Monitor.afterFlush, stands]
    | leave seen stands moved => simp [MonitorPoint.inFlush, stands]

/-- An event that enters a flush is a step of the worker's own. -/
theorem Event.isOwn_of_entersFlush (event : Event) (enters : event.entersFlush = true) :
    event.isOwn = true := by
  cases event with
  | own worker => rfl
  | _ => cases enters

theorem stepsLeft_le (point : WorkerPoint) (monitor : Monitor) : stepsLeft point monitor ≤ 6 := by
  unfold stepsLeft
  split
  · omega
  · omega
  · omega
  · split <;> omega

theorem closed_of_stepsLeft {point : WorkerPoint} {monitor : Monitor}
    (nothing : stepsLeft point monitor = 0) : point = .closed := by
  unfold stepsLeft at nothing
  split at nothing
  · rfl
  · cases nothing
  · cases nothing
  · split at nothing <;> cases nothing

theorem flushesLeft_le (point : WorkerPoint) (monitor : Monitor) :
    flushesLeft point monitor ≤ 1 := by
  unfold flushesLeft
  split <;> omega

theorem callsInAll_le (point : WorkerPoint) (monitor : Monitor) :
    callsInAll point monitor ≤ monitor.notified.length + 1 := by
  unfold callsInAll
  split
  · exact Nat.add_le_add_left (Bool.toNat_le _) _
  · omega

theorem le_callsInAll (point : WorkerPoint) (monitor : Monitor) :
    monitor.notified.length ≤ callsInAll point monitor := by
  unfold callsInAll
  split <;> omega

section Stopping

variable {first last : Supervised} {events : List Event}

theorem Run.countP_isOwn_le (run : Run first events last) (stops : first.worker.stop = true) :
    events.countP Event.isOwn ≤ 6 := by
  have pays (before after : Worker) (move : Worker.Move before after)
      (stopping : before.stop = true) :
      (Event.isOwn (.own before)).toNat + stepsLeft after.point after.monitor ≤
        stepsLeft before.point before.monitor := by
    rw [Nat.add_comm]
    exact (budgets_of_move move stopping).1
  have within := (run.countP_add_le stepsLeft Event.isOwn (fun _ own => own) pays stops).2
  have left := stepsLeft_le first.worker.point first.worker.monitor
  omega

theorem Run.countP_entersFlush_le (run : Run first events last)
    (stops : first.worker.stop = true) : events.countP Event.entersFlush ≤ 1 := by
  have within := (run.countP_add_le flushesLeft Event.entersFlush Event.isOwn_of_entersFlush
    (fun _ _ move stopping => (budgets_of_move move stopping).2.1) stops).2
  have left := flushesLeft_le first.worker.point first.worker.monitor
  omega

theorem Run.length_notified_le (run : Run first events last)
    (stops : first.worker.stop = true) :
    last.worker.monitor.notified.length ≤ first.worker.monitor.notified.length + 1 := by
  have pays (before after : Worker) (move : Worker.Move before after)
      (stopping : before.stop = true) :
      false.toNat + callsInAll after.point after.monitor ≤
        callsInAll before.point before.monitor := by
    rw [Bool.toNat_false, Nat.zero_add]
    exact (budgets_of_move move stopping).2.2
  have within := (run.countP_add_le callsInAll (fun _ => false)
    (fun _ costs => absurd costs Bool.false_ne_true) pays stops).2
  have called := le_callsInAll last.worker.point last.worker.monitor
  have left := callsInAll_le first.worker.point first.worker.monitor
  omega

end Stopping

/-- After an interrupt a worker that is left alone ends, if it need not wait for the first
discovery. -/
theorem Run.workSteps_closed {backend : Backend} {events : List Event} {last : Supervised}
    (steps : Nat) (run : Run { worker := { backend } } events last)
    (few : events.countP Event.arrives < UInt64.size) (done : last.interrupt = .done)
    (free : backend.awaitsDiscovery = true → last.worker.backend.shared.discovered = true)
    (bound : stepsLeft last.worker.point last.worker.monitor ≤ steps) :
    (last.worker.workSteps steps).point = .closed := by
  induction steps generalizing events last with
  | zero => exact closed_of_stepsLeft (Nat.le_zero.mp bound)
  | succ steps ih =>
    rw [Worker.workSteps]
    cases next : last.worker.step? with
    | none =>
      rcases run.of_isStuck few done (Or.inr next) with closed | ⟨-, -, awaits, undiscovered⟩
      · exact closed
      · exact absurd (undiscovered.symm.trans (free awaits)) Bool.false_ne_true
    | some after =>
      have awake : last.asleep = false := by
        by_contra sleeps
        have held := run.step?_eq_none (Or.inl (Bool.not_eq_false _ ▸ sleeps))
        exact nomatch next.symm.trans held
      have step := Step.own last after awake next
      have kept := run.inLoop (.fresh backend)
      have stops : last.worker.stop = true := by
        refine kept.flagged.mpr ?_
        rw [done]
        exact nofun
      have nearer := (budgets_of_move (Worker.move_of_step? next) stops).1
      refine ih (run.step step) ?_ done (fun awaits => ?_) ?_
      · rw [List.countP_append]
        exact few
      · exact Reader.Run.discovered_of_discovered (Run.reader (Trace.start.step step) kept)
          (free awaits)
      · show stepsLeft after.point after.monitor ≤ steps
        omega

/-- An interrupt ends the loop of a worker, wherever it comes. Once its two steps are done, the flag
and then the wake, the worker does not wait for events any more, and unless it has ended nothing but
the wait for a first publication can hold it up. After the flag is raised it enters one flush at
most and calls back once at most, and takes six steps of its own at most; and it comes to its end
if it need not wait for the first publication. -/
theorem interrupt_ends_the_loop {backend : Backend} {early late : List Event}
    {before flagged last : Supervised} (opened : Run { worker := { backend } } early before)
    (flag : Step before .raiseStop flagged) (run : Run flagged late last)
    (few : (early ++ late).countP Event.arrives < UInt64.size) :
    (last.interrupt = .done → last.IsStuck →
      last.worker.point = .closed ∨
        last.worker.point = .inside ∧ (∃ rest, last.worker.monitor.point = .flushing rest) ∧
          backend.awaitsDiscovery = true ∧ backend.shared.discovered = false ∧
          ∀ snapshot, .publish snapshot ∉ early ++ late) ∧
    (late.countP Event.entersFlush ≤ 1 ∧
      last.worker.monitor.notified.length ≤ before.worker.monitor.notified.length + 1) ∧
    late.countP Event.isOwn ≤ 6 ∧
    (last.interrupt = .done →
      (backend.awaitsDiscovery = true → last.worker.backend.shared.discovered = true) →
      (last.worker.workSteps 6).point = .closed) := by
  have whole := (opened.step flag).trans run
  have arrivals : (early ++ [Event.raiseStop] ++ late).countP Event.arrives < UInt64.size := by
    rw [List.append_assoc, List.countP_append]
    rw [List.countP_append] at few
    exact few
  have stops : flagged.worker.stop = true := by
    cases flag
    rfl
  have standing : flagged.worker.monitor = before.worker.monitor := by
    cases flag
    rfl
  refine ⟨fun done stuck => ?_, ⟨?_, ?_⟩, ?_, fun done free => ?_⟩
  · refine (Run.of_isStuck whole arrivals done stuck).imp_right ?_
    rintro ⟨inside, flushes, awaits, undiscovered⟩
    obtain ⟨unknown, unpublished⟩ := Run.unpublished whole (.fresh backend) undiscovered
    refine ⟨inside, flushes, awaits, unknown, fun snapshot published => unpublished snapshot ?_⟩
    rw [List.append_assoc]
    rcases List.mem_append.mp published with earlier | later
    · exact List.mem_append_left _ earlier
    · exact List.mem_append_right _ (List.mem_cons_of_mem _ later)
  · exact run.countP_entersFlush_le stops
  · rw [← standing]
    exact run.length_notified_le stops
  · exact run.countP_isOwn_le stops
  · exact Run.workSteps_closed 6 whole arrivals done free (stepsLeft_le _ _)

/-- Both steps come right before the worker notes the count. The wake is then nothing new to it, but
it finds the flag up, and ends. -/
theorem interrupt_ends_the_loop_before_call :
    ∃ early before flagged late last, Run { worker := { backend := .dummy } } early before ∧
      Step before .raiseStop flagged ∧ Run flagged late last ∧
      before.worker.point = .calling ∧ last.interrupt = .done ∧
      (last.worker.workSteps 6).point = .closed := by
  let opened : Supervised := { worker := { backend := .dummy } }
  let before : Supervised := { opened with worker := opened.worker.goTo .calling }
  let flagged : Supervised := ⟨before.worker.raiseStop, false, .flagged⟩
  let last : Supervised := ⟨flagged.worker.wake, false, .done⟩
  have early : Run opened [.own opened.worker] before :=
    Trace.start.step (.own opened _ rfl rfl)
  have flag : Step before .raiseStop flagged := .raiseStop before rfl
  have late : Run flagged [.stopWake] last := Trace.start.step (.stopWake flagged rfl)
  have ends := (interrupt_ends_the_loop early flag late (by decide)).2.2.2
  exact ⟨_, _, _, _, _, early, flag, late, rfl, rfl, ends rfl nofun⟩

end Supervised

end SoundDevices
