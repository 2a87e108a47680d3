import SoundDevices.Proofs.WatcherRuns
import SoundDevices.Watch.Machine

set_option autoImplicit false

/- Causes of a sweep: a wake, and a record that tells of a sound device node. A cause waits in its
source until the watcher takes it; from then on the watcher is committed to a sweep, that is, it
stands where nothing but a stop keeps it from one. Neither the order in which the two sources are
read nor what comes in between can lose a cause on the way. -/
namespace SoundDevices

/-- The watcher has taken a cause, and sweeps in this round unless it is stopped. -/
def WatcherPoint.isCommitted : WatcherPoint → Bool
  | readingChanges _ rescan => rescan
  | readingWakeups | woken | due => true
  | _ => false

theorem WatcherPoint.isCommitted_afterChanges (wakeups : Bool) :
    (Pipeline.afterChanges wakeups true).isCommitted = true := by
  cases wakeups <;> rfl

namespace Pipeline

open Scene (Event)

/-- A bound on the steps that a committed watcher takes to its sweep, while nobody else acts. -/
def stepsLeft (pipeline : Pipeline) : Nat :=
  let waiting := pipeline.session.queue.pending.length + pipeline.session.pipe.pending
  match pipeline.point with
  | .readingChanges _ _ => waiting + 4
  | .readingWakeups => waiting + 3
  | .woken => 2
  | .due => 1
  | _ => 0

theorem stepsLeft_afterChanges_lt {pipeline : Pipeline} {wakeups rescan : Bool}
    (stands : pipeline.point = .readingChanges wakeups rescan) :
    (pipeline.goTo (afterChanges wakeups rescan)).stepsLeft < pipeline.stepsLeft := by
  simp only [stepsLeft, stands, goTo]
  cases wakeups <;> cases rescan <;> simp [afterChanges]

/-- A committed watcher always has a step to take. -/
theorem exists_step?_of_isCommitted {pipeline : Pipeline}
    (committed : pipeline.point.isCommitted = true) : ∃ after, pipeline.step? = some after := by
  cases stands : pipeline.point with
  | readingChanges wakeups rescan =>
    simp only [step?, stands]
    split <;> exact ⟨_, rfl⟩
  | readingWakeups =>
    simp only [step?, stands]
    split <;> exact ⟨_, rfl⟩
  | woken =>
    simp only [step?, stands]
    exact ⟨_, rfl⟩
  | due =>
    simp only [step?, stands]
    exact ⟨_, rfl⟩
  | _ => simp [stands, WatcherPoint.isCommitted] at committed

/-- A committed watcher that is not stopped begins its sweep, or stays committed and comes
closer to it. -/
theorem Move.of_isCommitted {before after : Pipeline} {event : Event}
    (move : Move before event after) (running : before.state = .running)
    (committed : before.point.isCommitted = true) :
    (event = .beginSweep ∧ after.sweeps = before.sweeps + 1) ∨
      (after.point.isCommitted = true ∧ after.state = .running ∧
        after.sweeps = before.sweeps ∧ after.stepsLeft < before.stepsLeft) := by
  cases move with
  | rouse changes wakeups stands => simp [stands, WatcherPoint.isCommitted] at committed
  | look changes wakeups stands => simp [stands, WatcherPoint.isCommitted] at committed
  | readChanges wakeups rescan rest stands waiting shorter =>
    right
    rw [stands] at committed
    obtain rfl : rescan = true := committed
    refine ⟨rfl, running, rfl, ?_⟩
    simp only [stepsLeft, stands]
    omega
  | endChanges wakeups rescan stands =>
    right
    have closer := stepsLeft_afterChanges_lt stands
    rw [stands] at committed
    obtain rfl : rescan = true := committed
    exact ⟨WatcherPoint.isCommitted_afterChanges wakeups, running, rfl, closer⟩
  | readWakeups rest stands waiting fewer =>
    right
    refine ⟨committed, running, rfl, ?_⟩
    simp only [stepsLeft, stands]
    omega
  | endWakeups stands =>
    right
    refine ⟨rfl, running, rfl, ?_⟩
    simp only [stepsLeft, stands, goTo]
    omega
  | lookAgain stands =>
    right
    have unasked : before.stopRequested = false := by simp [stopRequested, running]
    rw [unasked]
    refine ⟨rfl, running, rfl, ?_⟩
    simp only [stepsLeft, stands, goTo, Bool.false_eq_true, ↓reduceIte]
    omega
  | beginSweep stands => exact Or.inl ⟨rfl, rfl⟩
  | leave stands => simp [stands, WatcherPoint.isCommitted] at committed

/-- Left to itself, a committed watcher that is not stopped begins a sweep. -/
theorem exists_advanceSteps_of_isCommitted {pipeline : Pipeline}
    (running : pipeline.state = .running) (committed : pipeline.point.isCommitted = true) :
    ∃ bound, (pipeline.advanceSteps bound).sweeps = pipeline.sweeps + 1 := by
  -- each step but the one that begins the sweep lowers the bound
  induction left : pipeline.stepsLeft using Nat.strongRecOn generalizing pipeline with
  | ind left ih =>
    obtain ⟨after, steps⟩ := exists_step?_of_isCommitted committed
    obtain ⟨event, -, move⟩ := move_of_step? steps
    rcases move.of_isCommitted running committed with
      ⟨-, begun⟩ | ⟨stillCommitted, stillRunning, same, closer⟩
    · refine ⟨1, ?_⟩
      simp only [advanceSteps, steps]
      exact begun
    · obtain ⟨bound, begins⟩ := ih after.stepsLeft (by omega) stillRunning stillCommitted rfl
      refine ⟨bound + 1, ?_⟩
      simp only [advanceSteps, steps]
      rw [begins, same]

end Pipeline

namespace Scene

namespace Event

def isCause : Event → Bool
  | wake | stopWake => true
  | record queued => queued.isPcmNodeChange
  | _ => false

/-- The watcher takes a cause from where it waits. -/
def Takes : Event → Event → Prop
  | record queued, readChanges records => queued ∈ records
  | wake, readWakeups bytes | stopWake, readWakeups bytes => 0 < bytes
  | _, _ => False

def endsWait : Event → Bool
  | rouse | interrupt => true
  | _ => false

end Event

/-- A cause has not been taken yet: a record stands in the queue, a wake byte in the pipe. -/
def Holds (scene : Scene) : Event → Prop
  | .record queued => queued ∈ scene.pipeline.session.queue.pending
  | _ => 0 < scene.pipeline.session.pipe.pending

/-- The queue has room for the record that is about to be queued, if one is. -/
def Fits (scene : Scene) (event : Event) : Prop :=
  ∀ queued, event = .record queued → scene.pipeline.session.queue.isFull = false

/-- The watcher begins a sweep before it waits again, unless a stop is raised first: until then it
does not wait, and left to itself it gets there. -/
def SweepsNext (scene : Scene) : Prop :=
  ∀ events later, Run scene events later → .raiseStop ∉ events → .beginSweep ∉ events →
    later.pipeline.point ≠ .polling ∧
      ∃ bound, (later.pipeline.advanceSteps bound).sweeps = later.pipeline.sweeps + 1

theorem Step.limit_eq {scene after : Scene} {event : Event} (step : Step scene event after) :
    after.pipeline.session.queue.limit = scene.pipeline.session.queue.limit := by
  cases step with
  | record queued =>
    show (scene.pipeline.session.queue.push queued).limit = _
    unfold RecordQueue.push
    split
    · rfl
    · split <;> rfl
  | own next steps =>
    obtain ⟨event, -, move⟩ := Pipeline.move_of_step? steps
    cases move <;> rfl
  | endSweep swept sweeps => cases swept <;> rfl
  | _ => rfl

theorem Run.limit_eq {first last : Scene} {events : List Event} (run : Run first events last) :
    last.pipeline.session.queue.limit = first.pipeline.session.queue.limit := by
  induction run with
  | start => rfl
  | step _ step ih => exact step.limit_eq.trans ih

theorem fits_of_unlimited {scene : Scene} {event : Event}
    (unlimited : scene.pipeline.session.queue.limit = none) : scene.Fits event := by
  intro queued _
  simp [RecordQueue.isFull, unlimited]

/-- A cause that has just happened has not been taken yet. -/
theorem Step.holds_of_isCause {scene after : Scene} {cause : Event}
    (step : Step scene cause after) (isCause : cause.isCause = true)
    (fits : scene.Fits cause) : after.Holds cause := by
  cases step with
  | wake => exact WakePipe.pending_write_pos _
  | record queued =>
    show queued ∈ (scene.pipeline.session.queue.push queued).pending
    rw [RecordQueue.push_of_not_isFull _ _ (fits queued rfl)]
    exact List.mem_append_right _ List.mem_cons_self
  | stopWake => exact WakePipe.pending_write_pos _
  | own next steps =>
    obtain ⟨event, label, move⟩ := Pipeline.move_of_step? steps
    rw [label] at isCause
    cases move <;> exact nomatch isCause
  | raiseStop => exact nomatch isCause
  | interrupt => exact nomatch isCause
  | endSweep => exact nomatch isCause

/-- Wake bytes wait until the watcher takes them, which commits it to a sweep. -/
theorem Step.pipe_waits_or_taken {scene after : Scene} {event : Event}
    (step : Step scene event after) (waits : 0 < scene.pipeline.session.pipe.pending) :
    0 < after.pipeline.session.pipe.pending ∨
      ((∃ bytes, event = .readWakeups bytes ∧ 0 < bytes) ∧
        after.pipeline.point.isCommitted = true) := by
  cases step with
  | wake => exact Or.inl (WakePipe.pending_write_pos _)
  | stopWake => exact Or.inl (WakePipe.pending_write_pos _)
  | own next steps =>
    obtain ⟨event, label, move⟩ := Pipeline.move_of_step? steps
    rw [label]
    cases move with
    | readWakeups rest stands waiting fewer =>
      refine Or.inr ⟨⟨_, rfl, by omega⟩, ?_⟩
      show scene.pipeline.point.isCommitted = true
      rw [stands]
      rfl
    | _ => exact Or.inl waits
  | endSweep swept sweeps => cases swept <;> exact Or.inl waits
  | _ => exact Or.inl waits

/-- A record waits until the watcher takes it, which commits it to a sweep if the record tells of a
sound device node. -/
theorem Step.record_waits_or_taken {scene after : Scene} {event : Event} {queued : QueuedRecord}
    (step : Step scene event after) (fits : scene.Fits event)
    (relevant : queued.isPcmNodeChange = true)
    (waits : queued ∈ scene.pipeline.session.queue.pending) :
    queued ∈ after.pipeline.session.queue.pending ∨
      ((∃ records, event = .readChanges records ∧ queued ∈ records) ∧
        after.pipeline.point.isCommitted = true) := by
  cases step with
  | record other =>
    left
    show queued ∈ (scene.pipeline.session.queue.push other).pending
    rw [RecordQueue.push_of_not_isFull _ _ (fits other rfl)]
    exact List.mem_append_left _ waits
  | own next steps =>
    obtain ⟨event, label, move⟩ := Pipeline.move_of_step? steps
    rw [label]
    cases move with
    | readChanges wakeups rescan rest stands waiting shorter =>
      rw [waiting] at waits
      rcases List.mem_append.mp waits with taken | left
      · refine Or.inr ⟨⟨_, rfl, taken⟩, ?_⟩
        have told := List.any_eq_true.mpr ⟨queued, taken, relevant⟩
        simp [WatcherPoint.isCommitted, told]
      · exact Or.inl left
    | _ => exact Or.inl waits
  | endSweep swept sweeps => cases swept <;> exact Or.inl waits
  | _ => exact Or.inl waits

/-- A cause waits until the watcher takes it, which commits it to a sweep. -/
theorem Step.holds_or_takes {scene after : Scene} {event cause : Event}
    (step : Step scene event after) (isCause : cause.isCause = true)
    (fits : scene.Fits event) (holds : scene.Holds cause) :
    after.Holds cause ∨ (cause.Takes event ∧ after.pipeline.point.isCommitted = true) := by
  cases cause with
  | record queued =>
    refine (step.record_waits_or_taken fits isCause holds).imp_right ?_
    rintro ⟨⟨records, rfl, taken⟩, committed⟩
    exact ⟨taken, committed⟩
  | wake =>
    refine (step.pipe_waits_or_taken holds).imp_right ?_
    rintro ⟨⟨bytes, rfl, taken⟩, committed⟩
    exact ⟨taken, committed⟩
  | stopWake =>
    refine (step.pipe_waits_or_taken holds).imp_right ?_
    rintro ⟨⟨bytes, rfl, taken⟩, committed⟩
    exact ⟨taken, committed⟩
  | _ => exact nomatch isCause

/-- A committed watcher stays so, in the same round, until it begins its sweep or is stopped. -/
theorem Step.of_isCommitted {scene after : Scene} {event : Event} (step : Step scene event after)
    (running : scene.pipeline.state = .running)
    (committed : scene.pipeline.point.isCommitted = true) (unbegun : event ≠ .beginSweep) :
    after.pipeline.point.isCommitted = true ∧ event.endsWait = false ∧
      (event ≠ .raiseStop → after.pipeline.state = .running) := by
  have goesOn : scene.pipeline.point ≠ .polling := by
    intro polls
    rw [polls] at committed
    exact nomatch committed
  cases step with
  | raiseStop => exact ⟨committed, rfl, fun unraised => absurd rfl unraised⟩
  | interrupt polls => exact absurd polls goesOn
  | own next steps =>
    obtain ⟨event, label, move⟩ := Pipeline.move_of_step? steps
    rw [label] at unbegun ⊢
    rcases move.of_isCommitted running committed with ⟨begun, -⟩ | ⟨stays, unstopped, -, -⟩
    · exact absurd begun unbegun
    · refine ⟨stays, ?_, fun _ => unstopped⟩
      cases move with
      | rouse changes wakeups stands => exact absurd stands goesOn
      | _ => rfl
  | endSweep swept sweeps =>
    rw [sweeps] at committed
    exact nomatch committed
  | _ => exact ⟨committed, rfl, fun _ => running⟩

/-- A committed watcher that is not stopped sweeps next. -/
theorem sweepsNext_of_isCommitted {scene : Scene} (running : scene.pipeline.state = .running)
    (committed : scene.pipeline.point.isCommitted = true) : scene.SweepsNext := by
  intro events later run unraised unbegun
  have kept : later.pipeline.state = .running ∧ later.pipeline.point.isCommitted = true := by
    induction run with
    | start => exact ⟨running, committed⟩
    | step run step ih =>
      rw [List.mem_append, not_or, List.mem_singleton] at unraised unbegun
      have before := ih unraised.1 unbegun.1
      have kept := step.of_isCommitted before.1 before.2 (Ne.symm unbegun.2)
      exact ⟨kept.2.2 (Ne.symm unraised.2), kept.1⟩
  refine ⟨?_, Pipeline.exists_advanceSteps_of_isCommitted kept.1 kept.2⟩
  intro polls
  rw [polls] at kept
  exact nomatch kept.2

/-- A cause that has not been taken at first either waits at the end of a run without a sweep, or
was taken in the round that still goes on. -/
theorem Run.cause_waits_or_taken {first last : Scene} {since : List Event} {cause : Event}
    (run : Run first since last) (isCause : cause.isCause = true)
    (unlimited : first.pipeline.session.queue.limit = none) (holds : first.Holds cause)
    (unbegun : .beginSweep ∉ since) (running : last.pipeline.state = .running) :
    last.Holds cause ∨
      ((∃ before taking after, since = before ++ taking :: after ∧ cause.Takes taking ∧
        ∀ event ∈ after, event.endsWait = false) ∧
        last.pipeline.point.isCommitted = true) := by
  induction run with
  | start => exact Or.inl holds
  | @step events scene last event run step ih =>
    rw [List.mem_append, not_or, List.mem_singleton] at unbegun
    have ran := step.ran running
    have limit := run.limit_eq.trans unlimited
    -- a cause that waits may be taken now; one that was taken keeps the watcher committed
    rcases ih unbegun.1 ran with waits | ⟨⟨before, taking, after, rfl, takes, sameRound⟩, committed⟩
    · refine (step.holds_or_takes isCause (fits_of_unlimited limit) waits).imp_right ?_
      rintro ⟨takes, committed⟩
      exact ⟨⟨events, event, [], rfl, takes, nofun⟩, committed⟩
    · right
      obtain ⟨stays, goesOn, -⟩ := step.of_isCommitted ran committed (Ne.symm unbegun.2)
      refine ⟨⟨before, taking, after ++ [event], by simp, takes, ?_⟩, stays⟩
      intro other member
      rcases List.mem_append.mp member with earlier | final
      · exact sameRound other earlier
      · rwa [List.mem_singleton.mp final]

theorem isBlocked_of_holds {scene : Scene} {cause : Event} (holds : scene.Holds cause) :
    scene.pipeline.isBlocked = false := by
  unfold Holds at holds
  unfold Pipeline.isBlocked
  split at holds
  · have some := List.isEmpty_eq_false_iff_exists_mem.mpr ⟨_, holds⟩
    simp [some]
  · have readable := (WakePipe.isReadable_iff _).mpr holds
    simp [readable]

/-- No cause of a sweep is lost. After a wake or a record that tells of a sound device node, and
with no sweep begun since, a running watcher has wake bytes or such a record still to read, or has
taken the cause in its present round and sweeps before it waits again. So it is not blocked. -/
theorem sweep_cause_is_never_lost {past since : List Event} {cause : Event} {scene : Scene}
    (run : Run (fresh {}) (past ++ cause :: since) scene) (isCause : cause.isCause = true)
    (latest : .beginSweep ∉ since) (running : scene.pipeline.state = .running) :
    (scene.pipeline.session.pipe.isReadable = true ∨
      (∃ queued ∈ scene.pipeline.session.queue.pending, queued.isPcmNodeChange = true) ∨
      ((∃ before taking after, since = before ++ taking :: after ∧ cause.Takes taking ∧
        ∀ event ∈ after, event.endsWait = false) ∧ scene.SweepsNext)) ∧
    scene.pipeline.isBlocked = false := by
  obtain ⟨before, early, late⟩ := run.split
  obtain ⟨after, step, later⟩ := late.first_step
  have unlimited : before.pipeline.session.queue.limit = none := early.limit_eq
  have holds := step.holds_of_isCause isCause (fits_of_unlimited unlimited)
  have limit := step.limit_eq.trans unlimited
  rcases later.cause_waits_or_taken isCause limit holds latest running with
    waits | ⟨taken, committed⟩
  · refine ⟨?_, isBlocked_of_holds waits⟩
    cases cause with
    | record queued => exact Or.inr (Or.inl ⟨queued, waits, isCause⟩)
    | _ => exact Or.inl ((WakePipe.isReadable_iff _).mpr waits)
  · have next := sweepsNext_of_isCommitted running committed
    refine ⟨Or.inr (Or.inr ⟨taken, next⟩), ?_⟩
    have goesOn := (next [] scene .start nofun nofun).1
    simp [Pipeline.isBlocked, goesOn]

/-- A wake that was taken by a round that has not yet looked at the state: nothing is left to read,
and yet the sweep is to come. -/
theorem sweep_cause_is_never_lost_once_read :
    ∃ scene, Run (fresh {}) [.wake, .rouse, .move, .readWakeups 1] scene ∧
      scene.pipeline.session.pipe.isReadable = false ∧
      scene.pipeline.session.queue.pending = [] ∧ scene.SweepsNext ∧
      scene.pipeline.isBlocked = false := by
  have idle : Run (fresh {}) [] (fresh {}) := .start
  have roused : Run (fresh {}) [.wake, .rouse]
      ⟨{ session := { pipe := ⟨1⟩ }, point := .roused false true }, 0⟩ :=
    idle.step (.wake _) |>.step (.own _ _ rfl)
  have read : Run (fresh {}) ([] ++ .wake :: [.rouse, .move, .readWakeups 1])
      ⟨{ session := { pipe := ⟨0⟩ }, point := .readingWakeups }, 0⟩ :=
    roused.step (.own _ _ rfl) |>.step (.own _ _ rfl)
  have kept := sweep_cause_is_never_lost read rfl (by simp) rfl
  refine ⟨_, read, rfl, rfl, ?_, kept.2⟩
  rcases kept.1 with readable | ⟨queued, waits, -⟩ | ⟨-, next⟩
  · exact nomatch readable
  · exact nomatch waits
  · exact next

end Scene

end SoundDevices
