import Mathlib.Data.List.Induction
import SoundDevices.Proofs.RecordReads
import SoundDevices.Watch.Pipeline

set_option autoImplicit false

/- Runs of a watcher among other threads. A scene is a pipeline together with those who are between
the two steps of asking for a stop. `Scene.Step` says what can happen to it next: a wake, a change
of the directory, one of the two steps of a stop, a signal that interrupts the wait, the end of a
sweep, or the watcher's own next step. `Scene.Run` is any number of such steps in any order, with
the list of what happened, oldest first.

`Pipeline.Move` lists what the watcher's own step can be, once for all proofs about runs. -/
namespace SoundDevices

namespace WakePipe

def nextRead (pipe : WakePipe) : Nat := min pipe.pending RecordQueue.bufferSize

theorem isReadable_iff (pipe : WakePipe) : pipe.isReadable = true ↔ 0 < pipe.pending := by
  simp [isReadable]

theorem read?_eq_none_iff (pipe : WakePipe) : pipe.read? = none ↔ pipe.pending = 0 := by
  unfold read?
  split <;> simp_all

/-- A read takes some of the bytes that wait, and leaves the rest. -/
theorem pending_of_read? {pipe after : WakePipe} (read : pipe.read? = some after) :
    pipe.pending = pipe.nextRead + after.pending ∧ after.pending < pipe.pending := by
  unfold read? at read
  split at read
  · simp at read
  · obtain rfl := Option.some.inj read
    unfold nextRead
    have positive : 0 < RecordQueue.bufferSize := by decide
    constructor <;> dsimp only <;> omega

end WakePipe

theorem RunState.raiseStop_ne_running (state : RunState) : state.raiseStop ≠ .running := by
  cases state <;> decide

/-- A pipeline among other threads: so many `stoppers` have raised the stop and have their wake
byte still to write. -/
structure Scene where
  pipeline : Pipeline
  stoppers : Nat := 0

namespace Scene

/-- Something that happens to a scene. A read tells what was read, nothing if no more was there. -/
inductive Event where
  | wake
  | record (queued : QueuedRecord)
  | raiseStop
  | stopWake
  | interrupt
  | rouse
  | readChanges (records : List QueuedRecord)
  | readWakeups (bytes : Nat)
  | move
  | beginSweep
  | endSweep (swept : Except Error Snapshot)

def Event.own (pipeline : Pipeline) : Event :=
  match pipeline.point with
  | .polling => .rouse
  | .readingChanges _ _ => .readChanges pipeline.session.queue.nextRead
  | .readingWakeups => .readWakeups pipeline.session.pipe.nextRead
  | .due => .beginSweep
  | _ => .move

def Event.isBeginSweep : Event → Bool
  | beginSweep => true
  | _ => false

/-- What can happen to a scene next. -/
inductive Step : Scene → Event → Scene → Prop where
  | wake (scene : Scene) : Step scene .wake { scene with pipeline := scene.pipeline.wake }
  | record (scene : Scene) (queued : QueuedRecord) :
      Step scene (.record queued) { scene with pipeline := scene.pipeline.record queued }
  | raiseStop (scene : Scene) :
      Step scene .raiseStop ⟨scene.pipeline.raiseStop, scene.stoppers + 1⟩
  | stopWake (scene : Scene) (owes : 0 < scene.stoppers) :
      Step scene .stopWake ⟨scene.pipeline.wake, scene.stoppers - 1⟩
  | interrupt (scene : Scene) (polls : scene.pipeline.point = .polling) :
      Step scene .interrupt { scene with pipeline := scene.pipeline.goTo (.roused false false) }
  | own (scene : Scene) (next : Pipeline) (steps : scene.pipeline.step? = some next) :
      Step scene (.own scene.pipeline) { scene with pipeline := next }
  | endSweep (scene : Scene) (swept : Except Error Snapshot)
      (sweeps : scene.pipeline.point = .sweeping) :
      Step scene (.endSweep swept) { scene with pipeline := scene.pipeline.endSweep swept }

/-- Some steps from a scene to another, with what happened, oldest first. -/
inductive Run (first : Scene) : List Event → Scene → Prop where
  | start : Run first [] first
  | step {events : List Event} {scene after : Scene} {event : Event}
      (run : Run first events scene) (step : Step scene event after) :
      Run first (events ++ [event]) after

def fresh (session : WatchSession) : Scene := { pipeline := .initial session }

theorem Run.eq_of_nil {first last : Scene} (run : Run first [] last) : last = first := by
  generalize none : ([] : List Event) = events at run
  cases run with
  | start => rfl
  | step => simp at none

theorem Run.last_step {first last : Scene} {events : List Event} {event : Event}
    (run : Run first (events ++ [event]) last) :
    ∃ scene, Run first events scene ∧ Step scene event last := by
  generalize whole : events ++ [event] = all at run
  cases run with
  | start =>
    simp at whole
  | step run step =>
    obtain ⟨rfl, same⟩ := List.append_inj' whole rfl
    obtain rfl := List.singleton_inj.mp same
    exact ⟨_, run, step⟩

/-- A run passes through a scene after each part of what happened. -/
theorem Run.split {first last : Scene} {before after : List Event}
    (run : Run first (before ++ after) last) :
    ∃ middle, Run first before middle ∧ Run middle after last := by
  induction after using List.reverseRecOn generalizing last with
  | nil =>
    rw [List.append_nil] at run
    exact ⟨last, run, .start⟩
  | append_singleton rest event ih =>
    rw [← List.append_assoc] at run
    obtain ⟨scene, early, step⟩ := run.last_step
    obtain ⟨middle, before, after⟩ := ih early
    exact ⟨middle, before, .step after step⟩

/-- A run that begins with an event passes through the scene after it. -/
theorem Run.first_step {first last : Scene} {event : Event} {events : List Event}
    (run : Run first (event :: events) last) :
    ∃ scene, Step first event scene ∧ Run scene events last := by
  have whole : Run first ([event] ++ events) last := run
  obtain ⟨scene, early, late⟩ := whole.split
  have final : Run first ([] ++ [event]) scene := early
  obtain ⟨same, none, step⟩ := final.last_step
  obtain rfl := none.eq_of_nil
  exact ⟨scene, step, late⟩

end Scene

namespace Pipeline

open Scene (Event)

theorem stopRequested_eq_true_iff (pipeline : Pipeline) :
    pipeline.stopRequested = true ↔ pipeline.state ≠ .running := by
  simp [stopRequested]

/-- What a step of the watcher's own can be, by where it stands. -/
inductive Move (before : Pipeline) : Event → Pipeline → Prop where
  | rouse (changes wakeups : Bool) (stands : before.point = .polling)
      (changed : changes = !before.session.queue.pending.isEmpty)
      (woken : wakeups = before.session.pipe.isReadable) :
      Move before .rouse (before.goTo (.roused changes wakeups))
  | look (changes wakeups : Bool) (stands : before.point = .roused changes wakeups) :
      Move before .move (before.goTo (afterRoused before.stopRequested changes wakeups))
  | readChanges (wakeups rescan : Bool) (rest : List QueuedRecord)
      (stands : before.point = .readingChanges wakeups rescan)
      (waiting : before.session.queue.pending = before.session.queue.nextRead ++ rest)
      (shorter : rest.length < before.session.queue.pending.length) :
      Move before (.readChanges before.session.queue.nextRead)
        { before with
          session.queue.pending := rest
          point := .readingChanges wakeups
            (rescan || before.session.queue.nextRead.any QueuedRecord.isPcmNodeChange) }
  | endChanges (wakeups rescan : Bool) (stands : before.point = .readingChanges wakeups rescan)
      (drained : before.session.queue.pending = []) :
      Move before (.readChanges []) (before.goTo (afterChanges wakeups rescan))
  | readWakeups (rest : Nat) (stands : before.point = .readingWakeups)
      (waiting : before.session.pipe.pending = before.session.pipe.nextRead + rest)
      (fewer : rest < before.session.pipe.pending) :
      Move before (.readWakeups before.session.pipe.nextRead)
        { before with session.pipe.pending := rest }
  | endWakeups (stands : before.point = .readingWakeups)
      (drained : before.session.pipe.pending = 0) :
      Move before (.readWakeups 0) (before.goTo .woken)
  | lookAgain (stands : before.point = .woken) :
      Move before .move (before.goTo (if before.stopRequested then .leaving else .due))
  | beginSweep (stands : before.point = .due) :
      Move before .beginSweep { before with point := .sweeping, sweeps := before.sweeps + 1 }
  | leave (stands : before.point = .leaving) :
      Move before .move { before with state := .stopped, point := .done }

theorem move_of_step? {before after : Pipeline} (steps : before.step? = some after) :
    ∃ event, Event.own before = event ∧ Move before event after := by
  refine ⟨Event.own before, rfl, ?_⟩
  unfold step? at steps
  unfold Event.own
  split at steps <;> rename_i stands <;> simp only [stands]
  · -- polling
    simp only [Bool.or_eq_true, Option.ite_none_right_eq_some, Option.some.injEq] at steps
    obtain ⟨-, rfl⟩ := steps
    exact .rouse _ _ stands rfl rfl
  · obtain rfl := Option.some.inj steps
    exact .look _ _ stands
  · -- reading change records
    split at steps <;> rename_i read <;> obtain rfl := Option.some.inj steps
    · have drained := (RecordQueue.read?_eq_none_iff _).mp read
      have nothing : before.session.queue.nextRead = [] := by
        simp only [RecordQueue.nextRead, drained]
      rw [nothing]
      exact .endChanges _ _ stands drained
    · rename_i buffer queue
      obtain ⟨-, waiting, limit⟩ := RecordQueue.pending_of_read? read
      have shorter := RecordQueue.length_lt_of_read? read
      rw [RecordQueue.hasPcmNodeChange_of_read? read]
      obtain ⟨rest, _⟩ := queue
      obtain rfl := limit
      exact .readChanges _ _ rest stands waiting shorter
  · -- reading wake bytes
    split at steps <;> rename_i read <;> obtain rfl := Option.some.inj steps
    · have drained := (WakePipe.read?_eq_none_iff _).mp read
      have nothing : before.session.pipe.nextRead = 0 := by
        unfold WakePipe.nextRead
        omega
      rw [nothing]
      exact .endWakeups stands drained
    · obtain ⟨waiting, fewer⟩ := WakePipe.pending_of_read? read
      exact .readWakeups _ stands waiting fewer
  · obtain rfl := Option.some.inj steps
    exact .lookAgain stands
  · obtain rfl := Option.some.inj steps
    exact .beginSweep stands
  · obtain rfl := Option.some.inj steps
    exact .leave stands
  all_goals simp at steps

theorem afterRoused_ne_sweeping (stop changes wakeups : Bool) :
    afterRoused stop changes wakeups ≠ .sweeping := by
  cases stop <;> cases changes <;> cases wakeups <;> decide

theorem afterChanges_ne_sweeping (wakeups rescan : Bool) :
    afterChanges wakeups rescan ≠ .sweeping := by
  cases wakeups <;> cases rescan <;> decide

/-- The watcher's own step publishes nothing, and leads into a sweep only by beginning one. -/
theorem Move.sweeping {before after : Pipeline} {event : Event} (move : Move before event after) :
    after.published = before.published ∧ before.point ≠ .sweeping ∧
      (after.point = .sweeping ↔ event = .beginSweep) := by
  cases move with
  | rouse changes wakeups stands => exact ⟨rfl, by simp [stands], by simp [goTo]⟩
  | look changes wakeups stands =>
    have elsewhere := afterRoused_ne_sweeping before.stopRequested changes wakeups
    exact ⟨rfl, by simp [stands], by simp [goTo, elsewhere]⟩
  | readChanges wakeups rescan rest stands => exact ⟨rfl, by simp [stands], by simp⟩
  | endChanges wakeups rescan stands =>
    have elsewhere := afterChanges_ne_sweeping wakeups rescan
    exact ⟨rfl, by simp [stands], by simp [goTo, elsewhere]⟩
  | readWakeups rest stands => exact ⟨rfl, by simp [stands], by simp [stands]⟩
  | endWakeups stands => exact ⟨rfl, by simp [stands], by simp [goTo]⟩
  | lookAgain stands =>
    refine ⟨rfl, by simp [stands], ?_⟩
    cases before.stopRequested <;> simp [goTo]
  | beginSweep stands => exact ⟨rfl, by simp [stands], by simp⟩
  | leave stands => exact ⟨rfl, by simp [stands], by simp⟩

end Pipeline

namespace Scene

/-- The state does not come back to where it began. -/
theorem Step.state_ne_running {scene after : Scene} {event : Event}
    (step : Step scene event after) (raised : scene.pipeline.state ≠ .running) :
    after.pipeline.state ≠ .running := by
  cases step with
  | raiseStop => exact RunState.raiseStop_ne_running _
  | own next steps =>
    obtain ⟨event, -, move⟩ := Pipeline.move_of_step? steps
    cases move with
    | leave stands => exact nofun
    | _ => exact raised
  | endSweep swept sweeps => cases swept <;> exact raised
  | _ => exact raised

theorem Step.ran {scene after : Scene} {event : Event} (step : Step scene event after)
    (running : after.pipeline.state = .running) : scene.pipeline.state = .running := by
  by_contra raised
  exact step.state_ne_running raised running

/-- The pipeline counts the sweeps that have begun. -/
theorem Step.sweeps_eq {scene after : Scene} {event : Event} (step : Step scene event after) :
    after.pipeline.sweeps = scene.pipeline.sweeps + [event].countP Event.isBeginSweep := by
  cases step with
  | own next steps =>
    obtain ⟨event, label, move⟩ := Pipeline.move_of_step? steps
    rw [label]
    cases move <;> rfl
  | endSweep swept sweeps => cases swept <;> rfl
  | _ => rfl

theorem Run.sweeps_eq {first last : Scene} {events : List Event} (run : Run first events last) :
    last.pipeline.sweeps = first.pipeline.sweeps + events.countP Event.isBeginSweep := by
  induction run with
  | start => rfl
  | step _ step ih => rw [step.sweeps_eq, ih, List.countP_append, Nat.add_assoc]

/-- What a step has to do with sweeps: it begins one, it ends one, or neither, and then nothing is
published. -/
theorem Step.sweeping_cases {scene after : Scene} {event : Event} (step : Step scene event after) :
    (event = .beginSweep ∧ after.pipeline.point = .sweeping) ∨
      (∃ swept, event = .endSweep swept ∧ scene.pipeline.point = .sweeping ∧
        after.pipeline = scene.pipeline.endSweep swept) ∨
      (event ≠ .beginSweep ∧ (∀ swept, event ≠ .endSweep swept) ∧
        after.pipeline.published = scene.pipeline.published ∧
        (after.pipeline.point = .sweeping ↔ scene.pipeline.point = .sweeping)) := by
  cases step with
  | interrupt polls =>
    have elsewhere : scene.pipeline.point ≠ .sweeping := by simp [polls]
    refine Or.inr (Or.inr ⟨?_, ?_, rfl, by simp [Pipeline.goTo, elsewhere]⟩)
    · intro same
      cases same
    · intro swept same
      cases same
  | own next steps =>
    obtain ⟨event, label, move⟩ := Pipeline.move_of_step? steps
    rw [label]
    obtain ⟨same, elsewhere, sweeping⟩ := move.sweeping
    by_cases begun : event = .beginSweep
    · exact Or.inl ⟨begun, sweeping.mpr begun⟩
    · refine Or.inr (Or.inr ⟨begun, ?_, same, ?_⟩)
      · intro swept same
        subst same
        cases move
      · show next.point = .sweeping ↔ _
        rw [sweeping]
        exact iff_of_false begun elsewhere
  | endSweep swept sweeps => exact Or.inr (Or.inl ⟨swept, rfl, sweeps, rfl⟩)
  | _ =>
    refine Or.inr (Or.inr ⟨?_, ?_, rfl, Iff.rfl⟩)
    · intro same
      cases same
    · intro swept same
      cases same

end Scene

end SoundDevices
