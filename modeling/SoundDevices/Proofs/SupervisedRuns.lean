import Mathlib.Tactic.ByContra
import SoundDevices.Proofs.ReaderRuns
import SoundDevices.Watch.Worker

set_option autoImplicit false

namespace SoundDevices

namespace Worker

/-- What a step of the worker's own can be, by where it stands. -/
inductive Move (before : Worker) : Worker → Prop
  | look (asks : before.point = .asking) :
      Move before (before.goTo (if before.stop then .closed else .calling))
  | call (calls : before.point = .calling) :
      Move before
        { before with monitor := before.monitor.beginWait before.backend.shared, point := .inside }
  | comeBack (inside : before.point = .inside) (idle : before.monitor.point = .idle) :
      Move before (before.goTo .asking)
  | goOn (monitor : Monitor) (shared : SharedSnapshot) (inside : before.point = .inside)
      (busy : before.monitor.point ≠ .idle)
      (steps : before.monitor.step? before.backend.awaitsDiscovery before.stop
        before.backend.shared = some (monitor, shared)) :
      Move before { before.withShared shared with monitor }

variable {before after : Worker}

theorem move_of_step? (steps : before.step? = some after) : Move before after := by
  unfold step? at steps
  split at steps <;> rename_i stands
  · cases steps
    exact .look stands
  · cases steps
    exact .call stands
  · split at steps
    · rename_i idle
      cases steps
      exact .comeBack stands idle
    · rename_i busy
      obtain ⟨⟨monitor, shared⟩, next, rfl⟩ := Option.map_eq_some_iff.mp steps
      exact .goOn monitor shared stands busy next
  · cases steps

theorem Move.stop_eq (move : Move before after) : after.stop = before.stop := by
  cases move <;> rfl

/-- Where a worker has no step of its own: after its end, before the first discovery, and as long as
the count that it waits on has not moved. -/
theorem step?_eq_none_iff :
    before.step? = none ↔
      before.point = .closed ∨
      before.point = .inside ∧
        ((∃ rest, before.monitor.point = .flushing rest ∧
          before.backend.awaitsDiscovery = true ∧ before.backend.shared.discovered = false) ∨
        before.monitor.point = .waiting before.backend.shared.signals) := by
  unfold step?
  cases stands : before.point with
  | asking => simp
  | calling => simp
  | closed => simp
  | inside =>
    by_cases idle : before.monitor.point = .idle
    · simp [idle]
    · simp [idle, monitorStep?, Monitor.step?_eq_none_iff]

end Worker

inductive InterruptPoint where
  | uncalled
  | flagged
  | done
  deriving DecidableEq

/-- A worker among other threads, and how far its supervisor has come with the interrupt. -/
structure Supervised where
  worker : Worker
  asleep : Bool := false
  interrupt : InterruptPoint := .uncalled

namespace Supervised

inductive Event where
  | publish (snapshot : Snapshot)
  | wake
  | raiseStop
  | stopWake
  | own (worker : Worker)
  | wakeUp
  | fallAsleep

/-- What can happen to a supervised worker next. -/
inductive Step : Supervised → Event → Supervised → Prop
  | publish (state : Supervised) (snapshot : Snapshot) :
      Step state (.publish snapshot)
        { state with worker := state.worker.publish snapshot, asleep := false }
  | wake (state : Supervised) :
      Step state .wake { state with worker := state.worker.wake, asleep := false }
  | raiseStop (state : Supervised) (uncalled : state.interrupt = .uncalled) :
      Step state .raiseStop
        { state with worker := state.worker.raiseStop, interrupt := .flagged }
  | stopWake (state : Supervised) (flagged : state.interrupt = .flagged) :
      Step state .stopWake ⟨state.worker.wake, false, .done⟩
  | own (state : Supervised) (after : Worker) (awake : state.asleep = false)
      (steps : state.worker.step? = some after) :
      Step state (.own state.worker) { state with worker := after }
  | wakeUp (state : Supervised) (sleeps : state.asleep = true) :
      Step state .wakeUp { state with asleep := false }
  | fallAsleep (state : Supervised) (awake : state.asleep = false)
      (inside : state.worker.point = .inside) (held : state.worker.step? = none) :
      Step state .fallAsleep { state with asleep := true }

abbrev Run (first : Supervised) (events : List Event) (last : Supervised) : Prop :=
  Trace Step first events last

/-- The worker cannot go on: it sleeps, or would find no step to take. -/
def IsStuck (state : Supervised) : Prop := state.asleep = true ∨ state.worker.step? = none

def reader (state : Supervised) : Reader :=
  ⟨state.worker.backend, state.worker.monitor, state.asleep⟩

/-- What an event is to the reader, if anything. -/
def Event.reader? : Event → Option Reader.Event
  | publish snapshot => some (.publish snapshot)
  | wake | stopWake => some .signal
  | own worker =>
    match worker.point with
    | .calling => some .beginWait
    | .inside => if worker.monitor.point = .idle then none else some (.move worker.stop)
    | .asking | .closed => none
  | wakeUp => some .wakeUp
  | fallAsleep => some .fallAsleep
  | raiseStop => none

def Event.arrives : Event → Bool
  | publish _ | wake | stopWake => true
  | raiseStop | own _ | wakeUp | fallAsleep => false

theorem Event.arrives_eq (event : Event) :
    event.arrives = (event.reader?.map Reader.Event.arrives).getD false := by
  cases event with
  | own worker =>
    simp only [reader?]
    split
    · rfl
    · split <;> rfl
    · rfl
    · rfl
  | _ => rfl

def Event.isOwn : Event → Bool
  | own _ => true
  | _ => false

/-- What every run keeps: the monitor is busy inside a call only, and the flag is up from the first
step of the interrupt on. -/
structure InLoop (state : Supervised) : Prop where
  outside : state.worker.point ≠ .inside → state.worker.monitor.point = .idle
  flagged : state.worker.stop = true ↔ state.interrupt ≠ .uncalled

theorem InLoop.fresh (backend : Backend) : InLoop { worker := { backend } } :=
  ⟨fun _ => rfl, by simp⟩

theorem InLoop.step {state after : Supervised} {event : Event} (kept : state.InLoop)
    (step : Step state event after) : after.InLoop := by
  cases step with
  | publish snapshot => exact ⟨kept.outside, kept.flagged⟩
  | wake => exact ⟨kept.outside, kept.flagged⟩
  | raiseStop uncalled => exact ⟨kept.outside, iff_of_true rfl nofun⟩
  | stopWake flagged =>
    refine ⟨kept.outside, iff_of_true (kept.flagged.mpr ?_) nofun⟩
    rw [flagged]
    exact nofun
  | wakeUp sleeps => exact ⟨kept.outside, kept.flagged⟩
  | fallAsleep awake inside held => exact ⟨kept.outside, kept.flagged⟩
  | own worker awake steps =>
    cases Worker.move_of_step? steps with
    | look asks =>
      refine ⟨fun _ => kept.outside ?_, kept.flagged⟩
      rw [asks]
      exact nofun
    | call calls => exact ⟨fun outside => absurd rfl outside, kept.flagged⟩
    | comeBack inside idle => exact ⟨fun _ => idle, kept.flagged⟩
    | goOn monitor shared inside busy next =>
      exact ⟨fun outside => absurd inside outside, kept.flagged⟩

theorem Run.inLoop {first last : Supervised} {events : List Event} (run : Run first events last)
    (kept : first.InLoop) : last.InLoop := by
  induction run with
  | start => exact kept
  | step _ next ih => exact ih.step next

/-- A worker that cannot go on in a call is held up there, whether or not it is to stop. -/
theorem held_of_step?_eq_none {state : Supervised} (inside : state.worker.point = .inside)
    (held : state.worker.step? = none) :
    state.reader.monitor.point ≠ .idle ∧ ∀ stop, state.reader.next? stop = none := by
  rcases Worker.step?_eq_none_iff.mp held with closed | ⟨-, flushes | waits⟩
  · exact nomatch inside.symm.trans closed
  · obtain ⟨rest, stands, undiscovered⟩ := flushes
    refine ⟨fun idle => (nomatch stands.symm.trans idle), fun stop => ?_⟩
    exact Reader.next?_eq_none_iff.mpr (Or.inr (Or.inl ⟨rest, stands, undiscovered⟩))
  · refine ⟨fun idle => (nomatch waits.symm.trans idle), fun stop => ?_⟩
    exact Reader.next?_eq_none_iff.mpr (Or.inr (Or.inr waits))

/-- A step of a supervised worker is a step of its reader, or none. -/
theorem Step.reader {state after : Supervised} {event : Event} (step : Step state event after)
    (kept : state.InLoop) :
    event.reader?.elim (after.reader = state.reader)
      (Reader.Step state.reader · after.reader) := by
  cases step with
  | publish snapshot => exact .publish state.reader snapshot
  | wake => exact .signal state.reader
  | raiseStop uncalled => rfl
  | stopWake flagged => exact .signal state.reader
  | wakeUp sleeps => exact .wakeUp state.reader sleeps
  | fallAsleep awake inside held =>
    obtain ⟨busy, stays⟩ := held_of_step?_eq_none inside held
    exact .fallAsleep state.reader awake busy stays
  | own worker awake steps =>
    -- the reader notices only that a call begins, and what is done within it
    cases Worker.move_of_step? steps with
    | look asks =>
      simp only [Event.reader?, asks]
      rfl
    | call calls =>
      have outside : state.worker.point ≠ .inside := by
        rw [calls]
        exact nofun
      simp only [Event.reader?, calls]
      exact .beginWait state.reader (kept.outside outside)
    | comeBack inside idle =>
      simp only [Event.reader?, inside, if_pos idle]
      rfl
    | goOn monitor shared inside busy next =>
      simp only [Event.reader?, inside, if_neg busy]
      exact .move state.reader _ monitor shared awake next

theorem Run.reader {first last : Supervised} {events : List Event}
    (run : Run first events last) (kept : first.InLoop) :
    Reader.Run first.reader (events.filterMap Event.reader?) last.reader := by
  induction run with
  | start => exact .start
  | @step events state after event run next ih =>
    have step := next.reader (Run.inLoop run kept)
    rw [List.filterMap_append]
    cases does : event.reader? with
    | none =>
      rw [does, Option.elim_none] at step
      simpa [does, step] using ih
    | some seen =>
      rw [does] at step
      simpa [does] using ih.step step

theorem countP_arrives (events : List Event) :
    events.countP Event.arrives = (events.filterMap Event.reader?).countP Reader.Event.arrives := by
  rw [List.countP_filterMap]
  exact List.countP_congr fun event _ => by rw [event.arrives_eq]

/-- A worker that cannot go on would find no step to take, whether or not it sleeps. -/
theorem Run.step?_eq_none {backend : Backend} {events : List Event} {last : Supervised}
    (run : Run { worker := { backend } } events last) (stuck : last.IsStuck) :
    last.worker.step? = none := by
  rcases stuck with sleeps | held
  · have rightly : last.reader.SleepsRightly := (run.reader (.fresh backend)).sleepsRightly nofun
    obtain ⟨busy, held⟩ := rightly sleeps
    have inside : last.worker.point = .inside := by
      by_contra outside
      exact busy ((run.inLoop (.fresh backend)).outside outside)
    have next : last.worker.monitor.step? last.worker.backend.awaitsDiscovery last.worker.stop
        last.worker.backend.shared = none := held last.worker.stop
    have busy : last.worker.monitor.point ≠ .idle := busy
    simp [Worker.step?, inside, busy, Worker.monitorStep?, next]
  · exact held

end Supervised

end SoundDevices
