import SoundDevices.Proofs.WatcherRuns

set_option autoImplicit false

/- The stop handshake. Whoever asks for a stop raises the state first and writes a wake byte second,
so between the two the watcher may read bytes of others, or its own byte before it ever looks. That
a stop is never lost rests on where the watcher looks at the state: once roused, and again after
every read of wake bytes. `StopKept` is what every run keeps, and `sweepsLeft` bounds the sweeps
that a watcher can still begin once the stop has been raised. -/
namespace SoundDevices

namespace RunState

def MovesTo (before after : RunState) : Prop :=
  after = before ∨ (before = running ∧ after = stopping) ∨ (before = stopping ∧ after = stopped)

theorem raiseStop_eq_stopped_iff (state : RunState) :
    state.raiseStop = stopped ↔ state = stopped := by
  cases state <;> decide

theorem movesTo_raiseStop (state : RunState) : state.MovesTo state.raiseStop := by
  cases state with
  | running => exact Or.inr (Or.inl ⟨rfl, rfl⟩)
  | stopping => exact Or.inl rfl
  | stopped => exact Or.inl rfl

end RunState

namespace WatcherPoint

/-- The watcher looks at the state before it waits again, or never waits again. -/
def looksFirst : WatcherPoint → Bool
  | roused _ _ | readingWakeups | woken | leaving | done | aborted _ => true
  | readingChanges wakeups _ => wakeups
  | polling | due | sweeping => false

/-- How many sweeps a watcher that finds the stop raised begins at most. Only a round that was
roused by changes alone, before the stop was raised, goes on to a sweep without a look. -/
def sweepsLeft : WatcherPoint → Nat
  | readingChanges wakeups _ => if wakeups then 0 else 1
  | due => 1
  | _ => 0

theorem sweepsLeft_le (point : WatcherPoint) : point.sweepsLeft ≤ 1 := by
  unfold sweepsLeft
  split
  · split <;> decide
  · decide
  · decide

theorem sweepsLeft_afterChanges_le (wakeups rescan : Bool) :
    (Pipeline.afterChanges wakeups rescan).sweepsLeft ≤
      (readingChanges wakeups rescan).sweepsLeft := by
  cases wakeups <;> cases rescan <;> decide

end WatcherPoint

namespace Scene

/-- What the two sides of the handshake keep. -/
structure StopKept (scene : Scene) : Prop where
  leaves : scene.pipeline.point = .leaving → scene.pipeline.state = .stopping
  stopped : scene.pipeline.point = .done ↔ scene.pipeline.state = .stopped
  awake : scene.pipeline.state ≠ .running →
    0 < scene.stoppers ∨ 0 < scene.pipeline.session.pipe.pending ∨
      scene.pipeline.point.looksFirst = true

theorem StopKept.fresh (session : WatchSession) : StopKept (fresh session) where
  leaves := (nomatch ·)
  stopped := ⟨(nomatch ·), (nomatch ·)⟩
  awake := fun raised => absurd rfl raised

/-- A step of the watcher from a place before its end to another one leaves the state alone. -/
theorem StopKept.goTo {scene : Scene} {session : WatchSession} {point : WatcherPoint}
    {sweeps : Nat} {published : PublishedState Snapshot} (kept : StopKept scene)
    (running : scene.pipeline.point ≠ .done) (goesOn : point ≠ .done)
    (leaves : point = .leaving → scene.pipeline.state ≠ .running)
    (awake : scene.pipeline.state ≠ .running →
      0 < scene.stoppers ∨ 0 < session.pipe.pending ∨ point.looksFirst = true) :
    StopKept { scene with
      pipeline := { session, state := scene.pipeline.state, published, point, sweeps } } where
  leaves := by
    intro there
    have notStopped := mt kept.stopped.mpr running
    have raised := leaves there
    cases state : scene.pipeline.state with
    | running => exact absurd state raised
    | stopping => rfl
    | stopped => exact absurd state notStopped
  stopped := ⟨fun done => absurd done goesOn,
    fun stopped => absurd (kept.stopped.mpr stopped) running⟩
  awake := awake

theorem StopKept.own {scene : Scene} {next : Pipeline} (kept : StopKept scene)
    (steps : scene.pipeline.step? = some next) :
    StopKept { scene with pipeline := next } := by
  have raised := scene.pipeline.stopRequested_eq_true_iff
  obtain ⟨event, -, move⟩ := Pipeline.move_of_step? steps
  cases move with
  | rouse changes wakeups stands =>
    refine kept.goTo (by simp [stands]) nofun nofun ?_
    exact fun _ => Or.inr (Or.inr rfl)
  | look changes wakeups stands =>
    cases stop : scene.pipeline.stopRequested with
    | true =>
      refine kept.goTo (by simp [stands]) nofun (fun _ => raised.mp stop) ?_
      exact fun _ => Or.inr (Or.inr rfl)
    | false =>
      -- nobody has asked for a stop, so there is nothing to stay awake for
      have running : ¬ scene.pipeline.state ≠ .running := by simp [← raised, stop]
      refine kept.goTo (by simp [stands]) ?_ ?_ (absurd · running)
      all_goals cases changes <;> cases wakeups <;> nofun
  | readChanges wakeups rescan rest stands =>
    refine kept.goTo (by simp [stands]) nofun nofun fun stopping => ?_
    simpa [stands, WatcherPoint.looksFirst] using kept.awake stopping
  | endChanges wakeups rescan stands =>
    refine kept.goTo (by simp [stands]) ?_ ?_ fun stopping => ?_
    · cases wakeups <;> cases rescan <;> nofun
    · cases wakeups <;> cases rescan <;> nofun
    · have awake := kept.awake stopping
      cases wakeups with
      | true => exact Or.inr (Or.inr rfl)
      | false => exact awake.imp_right (Or.imp_right (by simp [stands, WatcherPoint.looksFirst]))
  | readWakeups rest stands =>
    -- the byte of the stop may be among those read, but a look at the state comes behind them
    refine kept.goTo (by simp [stands]) ?_ ?_ fun _ => Or.inr (Or.inr ?_)
    all_goals simp [stands, WatcherPoint.looksFirst]
  | endWakeups stands =>
    refine kept.goTo (by simp [stands]) nofun nofun ?_
    exact fun _ => Or.inr (Or.inr rfl)
  | lookAgain stands =>
    cases stop : scene.pipeline.stopRequested with
    | true =>
      refine kept.goTo (by simp [stands]) nofun (fun _ => raised.mp stop) ?_
      exact fun _ => Or.inr (Or.inr rfl)
    | false =>
      have running : ¬ scene.pipeline.state ≠ .running := by simp [← raised, stop]
      exact kept.goTo (by simp [stands]) nofun nofun (absurd · running)
  | beginSweep stands =>
    refine kept.goTo (by simp [stands]) nofun nofun fun stopping => ?_
    simpa [stands, WatcherPoint.looksFirst] using kept.awake stopping
  | leave stands =>
    exact ⟨nofun, ⟨fun _ => rfl, fun _ => rfl⟩, fun _ => Or.inr (Or.inr rfl)⟩

theorem StopKept.step {scene after : Scene} {event : Event} (kept : StopKept scene)
    (step : Step scene event after) : StopKept after := by
  cases step with
  | wake =>
    refine ⟨kept.leaves, kept.stopped, fun _ => Or.inr (Or.inl ?_)⟩
    exact WakePipe.pending_write_pos _
  | record queued => exact ⟨kept.leaves, kept.stopped, kept.awake⟩
  | raiseStop =>
    refine ⟨fun leaves => ?_, ?_, fun _ => Or.inl (Nat.succ_pos _)⟩
    · show scene.pipeline.state.raiseStop = .stopping
      rw [kept.leaves leaves]
      rfl
    · exact kept.stopped.trans (RunState.raiseStop_eq_stopped_iff _).symm
  | stopWake =>
    refine ⟨kept.leaves, kept.stopped, fun _ => Or.inr (Or.inl ?_)⟩
    exact WakePipe.pending_write_pos _
  | interrupt polls =>
    refine kept.goTo (by simp [polls]) nofun nofun ?_
    exact fun _ => Or.inr (Or.inr rfl)
  | own next steps => exact kept.own steps
  | endSweep swept sweeps =>
    cases swept with
    | ok snapshot =>
      refine kept.goTo (by simp [sweeps]) nofun nofun fun stopping => ?_
      simpa [sweeps, WatcherPoint.looksFirst] using kept.awake stopping
    | error failure =>
      refine kept.goTo (by simp [sweeps]) nofun nofun ?_
      exact fun _ => Or.inr (Or.inr rfl)

theorem StopKept.run {session : WatchSession} {events : List Event} {scene : Scene}
    (run : Run (Scene.fresh session) events scene) : StopKept scene := by
  induction run with
  | start => exact .fresh session
  | step _ step ih => exact ih.step step

/-- The state only ever moves on by one. -/
theorem StopKept.movesTo {scene after : Scene} {event : Event} (kept : StopKept scene)
    (step : Step scene event after) :
    scene.pipeline.state.MovesTo after.pipeline.state := by
  cases step with
  | raiseStop => exact RunState.movesTo_raiseStop _
  | own next steps =>
    obtain ⟨event, -, move⟩ := Pipeline.move_of_step? steps
    cases move with
    | leave stands => exact Or.inr (Or.inr ⟨kept.leaves stands, rfl⟩)
    | _ => exact Or.inl rfl
  | endSweep swept sweeps => cases swept <;> exact Or.inl rfl
  | _ => exact Or.inl rfl

/-- Once the stop has been raised, a sweep that begins uses up one that was left. -/
theorem Step.sweeps_add_sweepsLeft_le {scene after : Scene} {event : Event}
    (step : Step scene event after) (raised : scene.pipeline.state ≠ .running) :
    after.pipeline.sweeps + after.pipeline.point.sweepsLeft ≤
      scene.pipeline.sweeps + scene.pipeline.point.sweepsLeft := by
  cases step with
  | own next steps =>
    have stop := scene.pipeline.stopRequested_eq_true_iff.mpr raised
    obtain ⟨event, -, move⟩ := Pipeline.move_of_step? steps
    cases move with
    | look changes wakeups stands =>
      -- the look finds the stop raised, so that the watcher leaves
      rw [stop]
      exact Nat.le_add_right _ _
    | readChanges wakeups rescan rest stands =>
      rw [stands]
      exact Nat.le_refl _
    | endChanges wakeups rescan stands =>
      rw [stands]
      exact Nat.add_le_add_left (WatcherPoint.sweepsLeft_afterChanges_le wakeups rescan) _
    | lookAgain stands =>
      rw [stop]
      exact Nat.le_add_right _ _
    | beginSweep stands =>
      rw [stands]
      exact Nat.le_refl _
    | readWakeups rest stands =>
      show scene.pipeline.sweeps + scene.pipeline.point.sweepsLeft ≤ _
      exact Nat.le_refl _
    | _ => exact Nat.le_add_right _ _
  | interrupt polls => exact Nat.le_add_right _ _
  | endSweep swept sweeps => cases swept <;> exact Nat.le_add_right _ _
  | _ => exact Nat.le_refl _

/-- Once the stop has been raised, no more sweeps begin than were left. -/
theorem Run.countP_isBeginSweep_le {first last : Scene} {events : List Event}
    (run : Run first events last) (raised : first.pipeline.state ≠ .running) :
    events.countP Event.isBeginSweep ≤ 1 := by
  have kept : last.pipeline.state ≠ .running ∧
      last.pipeline.sweeps + last.pipeline.point.sweepsLeft ≤
        first.pipeline.sweeps + first.pipeline.point.sweepsLeft := by
    induction run with
    | start => exact ⟨raised, Nat.le_refl _⟩
    | step _ step ih =>
      have fewer := step.sweeps_add_sweepsLeft_le ih.1
      exact ⟨step.state_ne_running ih.1, Nat.le_trans fewer ih.2⟩
  have bound := first.pipeline.point.sweepsLeft_le
  have total := run.sweeps_eq
  omega

/-- A watcher that is done stays so: it neither sweeps nor publishes. -/
theorem Step.of_done {scene after : Scene} {event : Event} (step : Step scene event after)
    (done : scene.pipeline.point = .done) :
    after.pipeline.point = .done ∧ after.pipeline.published = scene.pipeline.published ∧
      event ≠ .beginSweep ∧ ∀ swept, event ≠ .endSweep swept := by
  cases step with
  | interrupt polls => simp [done] at polls
  | own next steps => simp [Pipeline.step?, done] at steps
  | endSweep swept sweeps => simp [done] at sweeps
  | _ => exact ⟨done, rfl, nofun, nofun⟩

theorem Run.of_done {first last : Scene} {events : List Event} (run : Run first events last)
    (done : first.pipeline.point = .done) :
    last.pipeline.point = .done ∧ last.pipeline.published = first.pipeline.published ∧
      .beginSweep ∉ events ∧ ∀ swept, .endSweep swept ∉ events := by
  induction run with
  | start => exact ⟨done, rfl, List.not_mem_nil, fun _ => List.not_mem_nil⟩
  | step _ step ih =>
    obtain ⟨still, same, unbegun, unended⟩ := ih
    obtain ⟨after, unchanged, noBegin, noEnd⟩ := step.of_done still
    refine ⟨after, unchanged.trans same, ?_, fun swept => ?_⟩
    · simpa [unbegun] using noBegin.symm
    · simpa [unended swept] using (noEnd swept).symm

/-- The stop handshake, for all orders of wakes, changes, stop requests and steps of the watcher.
The state moves on by one at a time; a watcher that waits although the stop has been raised has a
wake byte to read, or somebody is about to write one; at most one more sweep begins; and a watcher
that has stopped neither sweeps nor publishes. -/
theorem stop_is_never_lost {session : WatchSession} {events : List Event} {scene : Scene}
    (run : Run (fresh session) events scene) :
    (∀ event after, Step scene event after →
      scene.pipeline.state.MovesTo after.pipeline.state) ∧
    (scene.pipeline.state ≠ .running → scene.pipeline.point = .polling →
      0 < scene.pipeline.session.pipe.pending ∨ 0 < scene.stoppers) ∧
    (scene.pipeline.state ≠ .running → ∀ more later, Run scene more later →
      more.countP Event.isBeginSweep ≤ 1) ∧
    (scene.pipeline.state = .stopped → ∀ more later, Run scene more later →
      .beginSweep ∉ more ∧ (∀ swept, .endSweep swept ∉ more) ∧
        later.pipeline.published = scene.pipeline.published) := by
  have kept := StopKept.run run
  refine ⟨fun event after step => kept.movesTo step, ?_, ?_, ?_⟩
  · intro raised polls
    rcases kept.awake raised with owes | waits | looks
    · exact Or.inr owes
    · exact Or.inl waits
    · rw [polls] at looks
      cases looks
  · intro raised more later further
    exact further.countP_isBeginSweep_le raised
  · intro stopped more later further
    obtain ⟨-, same, unbegun, unended⟩ := further.of_done (kept.stopped.mpr stopped)
    exact ⟨unbegun, unended, same⟩

/-- A scene with the watcher at a place and so many wake bytes, in which nothing was recorded. -/
def standing (point : WatcherPoint) (bytes : Nat) : Scene :=
  { pipeline := { session := { pipe := ⟨bytes⟩ }, point } }

/-- A stop that is raised while a sweep goes on: the watcher waits again, and the byte is still to
be written. -/
theorem stop_is_never_lost_during_sweep :
    ∃ scene, Run (fresh {})
        [.wake, .rouse, .move, .readWakeups 1, .readWakeups 0, .move, .beginSweep, .raiseStop,
          .endSweep (.ok .empty)] scene ∧
      scene.pipeline.state = .stopping ∧ scene.pipeline.point = .polling ∧
      (0 < scene.pipeline.session.pipe.pending ∨ 0 < scene.stoppers) := by
  have idle : Run (fresh {}) [] (fresh {}) := .start
  have roused : Run (fresh {}) [.wake, .rouse, .move] (standing .readingWakeups 1) :=
    idle.step (.wake _) |>.step (.own _ _ rfl) |>.step (.own _ _ rfl)
  have reads : Step (standing .readingWakeups 1) (.readWakeups 1) (standing .readingWakeups 0) :=
    .own _ (standing .readingWakeups 0).pipeline rfl
  have drained : Run (fresh {}) [.wake, .rouse, .move, .readWakeups 1, .readWakeups 0]
      (standing .woken 0) := (roused.step reads).step (.own _ _ rfl)
  have sweeping := drained.step (.own _ _ rfl) |>.step (.own _ _ rfl)
  have stopping := sweeping.step (.raiseStop _) |>.step (.endSweep _ (.ok .empty) rfl)
  exact ⟨_, stopping, rfl, rfl, (stop_is_never_lost stopping).2.1 nofun rfl⟩

end Scene

end SoundDevices
