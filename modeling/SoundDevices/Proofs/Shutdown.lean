import SoundDevices.Proofs.Handoff
import SoundDevices.Proofs.ReaderRuns
import SoundDevices.Proofs.StopHandshake

set_option autoImplicit false

namespace SoundDevices

open PublishedState (Act replay replay_concat)

namespace Scene

def Event.published? : Event → Option Snapshot
  | endSweep (.ok snapshot) => some snapshot
  | _ => none

theorem Event.published?_eq_some_iff {event : Event} {snapshot : Snapshot} :
    event.published? = some snapshot ↔ event = .endSweep (.ok snapshot) := by
  constructor
  · intro published
    unfold published? at published
    split at published
    · rw [Option.some.inj published]
    · cases published
  · rintro rfl
    rfl

/-- The watcher publishes when a sweep ends, and only then. -/
theorem Step.published_eq {scene after : Scene} {event : Event} (step : Step scene event after) :
    after.pipeline.published =
      event.published?.elim scene.pipeline.published scene.pipeline.published.publish := by
  cases step with
  | own next steps =>
    obtain ⟨event, label, move⟩ := Pipeline.move_of_step? steps
    rw [label]
    cases move <;> rfl
  | endSweep swept sweeps => cases swept <;> rfl
  | _ => rfl

end Scene

/-- How far the shutdown of a backend has come. Once the stop is `raised` it writes the wake byte,
then waits for the watcher's end (`joining`), and signals the readers (`joined`). -/
inductive ShutdownPoint where
  | uncalled
  | raised
  | joining
  | joined
  | returned
  deriving DecidableEq

/-- A call of a shutdown begins where no other one is under way. -/
def ShutdownPoint.IsIdle (point : ShutdownPoint) : Prop := point = .uncalled ∨ point = .returned

/-- A backend with its watcher, and how far its shutdown has come. Who calls for it first takes the
handle of the watcher's thread. -/
structure Hotplug where
  scene : Scene
  shutdown : ShutdownPoint := .uncalled
  holdsThread : Bool := true

namespace Hotplug

def started (session : WatchSession) : Hotplug where
  scene := { pipeline := .started session }

def withPipeline (hotplug : Hotplug) (pipeline : Pipeline) : Hotplug :=
  { hotplug with scene := { hotplug.scene with pipeline } }

inductive Event where
  | scene (event : Scene.Event)
  | signal
  | take
  | shutdown (stood : ShutdownPoint)

def Event.act? : Event → Option (Act Snapshot)
  | scene event => event.published?.map .publish
  | signal | shutdown .joined => some .signal
  | take => some .take
  | shutdown _ => none

theorem Event.act?_eq_publish_iff {event : Event} {snapshot : Snapshot} :
    event.act? = some (.publish snapshot) ↔ event = .scene (.endSweep (.ok snapshot)) := by
  cases event with
  | scene event =>
    rw [Event.scene.injEq, ← Scene.Event.published?_eq_some_iff]
    cases published : event.published? with
    | none => simp [act?, published]
    | some other => simp [act?, published]
  | shutdown stood => cases stood <;> simp [act?]
  | signal => simp [act?]
  | take => simp [act?]

/-- What can happen to a backend next. Nobody but its shutdown asks for a stop. -/
inductive Step : Hotplug → Event → Hotplug → Prop
  | scene (hotplug : Hotplug) (event : Scene.Event) (after : Scene)
      (step : Scene.Step hotplug.scene event after) (unraised : event ≠ .raiseStop)
      (unowed : event ≠ .stopWake) :
      Step hotplug (.scene event) { hotplug with scene := after }
  | signal (hotplug : Hotplug) :
      Step hotplug .signal (hotplug.withPipeline hotplug.scene.pipeline.signal)
  | take (hotplug : Hotplug) :
      Step hotplug .take (hotplug.withPipeline hotplug.scene.pipeline.take.2)
  | raiseStop (hotplug : Hotplug) (after : Scene) (idle : hotplug.shutdown.IsIdle)
      (held : hotplug.holdsThread = true) (step : Scene.Step hotplug.scene .raiseStop after) :
      Step hotplug (.shutdown .uncalled) ⟨after, .raised, false⟩
  | wakeWatcher (hotplug : Hotplug) (after : Scene) (stands : hotplug.shutdown = .raised)
      (step : Scene.Step hotplug.scene .stopWake after) :
      Step hotplug (.shutdown .raised) { hotplug with scene := after, shutdown := .joining }
  | join (hotplug : Hotplug) (stands : hotplug.shutdown = .joining)
      (done : hotplug.scene.pipeline.point = .done) :
      Step hotplug (.shutdown .joining) { hotplug with shutdown := .joined }
  | release (hotplug : Hotplug) (stands : hotplug.shutdown = .joined) :
      Step hotplug (.shutdown .joined)
        { hotplug.withPipeline hotplug.scene.pipeline.signal with shutdown := .returned }
  | callAgain (hotplug : Hotplug) (idle : hotplug.shutdown.IsIdle)
      (gone : hotplug.holdsThread = false) : Step hotplug (.shutdown .returned) hotplug

abbrev Run (first : Hotplug) (events : List Event) (last : Hotplug) : Prop :=
  Trace Step first events last

theorem Step.own (hotplug : Hotplug) (next : Pipeline)
    (steps : hotplug.scene.pipeline.step? = some next) :
    Step hotplug (.scene (.own hotplug.scene.pipeline)) (hotplug.withPipeline next) := by
  obtain ⟨event, label, move⟩ := Pipeline.move_of_step? steps
  refine .scene _ _ _ (.own _ _ steps) ?_ ?_
  · rw [label]
    cases move <;> nofun
  · rw [label]
    cases move <;> nofun

theorem run_advanceSteps (bound : Nat) (hotplug : Hotplug) :
    ∃ events, Run hotplug events
      (hotplug.withPipeline (hotplug.scene.pipeline.advanceSteps bound)) := by
  induction bound generalizing hotplug with
  | zero => exact ⟨[], .start⟩
  | succ bound ih =>
    rw [Pipeline.advanceSteps]
    cases steps : hotplug.scene.pipeline.step? with
    | none => exact ⟨[], .start⟩
    | some after =>
      obtain ⟨events, run⟩ := ih (hotplug.withPipeline after)
      exact ⟨_, (Trace.start.step (.own hotplug after steps)).trans run⟩

theorem run_settleRounds (system : SoundSystem) (preferred : UInt32) (rounds : Nat)
    (hotplug : Hotplug) :
    ∃ events, Run hotplug events
      (hotplug.withPipeline (hotplug.scene.pipeline.settleRounds system preferred rounds)) := by
  induction rounds generalizing hotplug with
  | zero => exact ⟨[], .start⟩
  | succ rounds ih =>
    obtain ⟨events, run⟩ : ∃ events, Run hotplug events
        (hotplug.withPipeline hotplug.scene.pipeline.advance) := run_advanceSteps _ hotplug
    cases stands : hotplug.scene.pipeline.advance.point with
    | sweeping =>
      have swept := Step.scene (hotplug.withPipeline hotplug.scene.pipeline.advance) _ _
        (.endSweep _ (enumerate system preferred) stands) nofun nofun
      obtain ⟨more, later⟩ := ih (hotplug.withPipeline
        (hotplug.scene.pipeline.advance.endSweep (enumerate system preferred)))
      have whole := (run.step swept).trans later
      rw [Pipeline.settleRounds]
      simp only [stands]
      exact ⟨_, whole⟩
    | _ =>
      rw [Pipeline.settleRounds]
      simp only [stands]
      exact ⟨events, run⟩

/-- The shutdown of a machine, done in one go while nobody else does anything, is such a run. -/
theorem run_shutdown (machine : Machine) (held : machine.holdsThread = true)
    (ends : (machine.onPipeline Pipeline.requestStop).settle.pipeline.point = .done) :
    ∃ events, Run ⟨⟨machine.pipeline, 0⟩, .uncalled, true⟩ events
      ⟨⟨machine.shutdown.pipeline, 0⟩, .returned, machine.shutdown.holdsThread⟩ := by
  have asked : Run ⟨⟨machine.pipeline, 0⟩, .uncalled, true⟩ _
      ⟨⟨machine.pipeline.requestStop, 0⟩, .joining, false⟩ :=
    Trace.start.step (.raiseStop _ _ (Or.inl rfl) rfl (.raiseStop _))
      |>.step (.wakeWatcher _ _ rfl (.stopWake _ (Nat.succ_pos _)))
  obtain ⟨events, settled⟩ := run_settleRounds machine.system machine.preferred 3
    ⟨⟨machine.pipeline.requestStop, 0⟩, .joining, false⟩
  have whole := (asked.trans settled).step (.join _ rfl ends) |>.step (.release _ rfl)
  rw [machine.holdsThread_shutdown, Machine.shutdown, if_pos held]
  exact ⟨_, whole⟩

/-- What every run of a backend keeps: the handshake with the watcher, that the shutdown gets past
the watcher only at the watcher's end, and that the handle is held until somebody calls for the
shutdown. -/
structure Orderly (hotplug : Hotplug) : Prop where
  kept : Scene.StopKept hotplug.scene
  ended : hotplug.shutdown = .joined ∨ hotplug.shutdown = .returned →
    hotplug.scene.pipeline.point = .done
  handle : hotplug.shutdown ≠ .uncalled → hotplug.holdsThread = false

theorem Orderly.started (session : WatchSession) : Orderly (started session) where
  kept := (Scene.StopKept.fresh session).step (.wake _)
  ended := by simp [Hotplug.started]
  handle := by simp [Hotplug.started]

theorem Orderly.step {hotplug after : Hotplug} {event : Event} (orderly : Orderly hotplug)
    (step : Step hotplug event after) : Orderly after := by
  obtain ⟨kept, ended, handle⟩ := orderly
  cases step with
  | scene event next step =>
    exact ⟨kept.step step, fun past => (step.of_done (ended past)).1, handle⟩
  | signal => exact ⟨⟨kept.leaves, kept.stopped, kept.awake⟩, ended, handle⟩
  | take => exact ⟨⟨kept.leaves, kept.stopped, kept.awake⟩, ended, handle⟩
  | raiseStop next idle held step => exact ⟨kept.step step, by simp, fun _ => rfl⟩
  | wakeWatcher next stands step =>
    exact ⟨kept.step step, by simp, fun _ => handle (by simp [stands])⟩
  | join stands done => exact ⟨kept, fun _ => done, fun _ => handle (by simp [stands])⟩
  | release stands =>
    exact ⟨⟨kept.leaves, kept.stopped, kept.awake⟩, fun _ => ended (Or.inl stands),
      fun _ => handle (by simp [stands])⟩
  | callAgain idle gone => exact ⟨kept, ended, handle⟩

theorem Orderly.run {first last : Hotplug} {events : List Event} (orderly : Orderly first)
    (run : Run first events last) : Orderly last := by
  induction run with
  | start => exact orderly
  | step _ next ih => exact ih.step next

def shared (hotplug : Hotplug) : SharedSnapshot := hotplug.scene.pipeline.published

theorem Step.shared_eq {hotplug after : Hotplug} {event : Event}
    (step : Step hotplug event after) :
    after.shared = event.act?.elim hotplug.shared (Act.apply hotplug.shared) := by
  cases step with
  | scene event next step =>
    show next.pipeline.published = (event.published?.map Act.publish).elim _ _
    rw [step.published_eq]
    cases event.published? <;> rfl
  | raiseStop next idle held step => exact step.published_eq
  | wakeWatcher next stands step => exact step.published_eq
  | _ => rfl

/-- A run does to the published state what its events do, one after the other. -/
theorem Run.shared_eq {first last : Hotplug} {events : List Event} (run : Run first events last) :
    last.shared = replay first.shared (events.filterMap Event.act?) := by
  induction run with
  | start => rfl
  | @step events state after event _ next ih =>
    rw [next.shared_eq, ih, List.filterMap_append]
    cases does : event.act? with
    | none => simp [does]
    | some act => simp [does, replay_concat]

/-- A shutdown that comes to its end has signalled the readers. -/
theorem Run.released {first last : Hotplug} {events : List Event} (run : Run first events last)
    (unfinished : first.shutdown ≠ .returned) (finished : last.shutdown = .returned) :
    .shutdown .joined ∈ events := by
  induction run with
  | start => exact absurd finished unfinished
  | step _ next ih =>
    cases next with
    | release stands => exact List.mem_append_right _ List.mem_cons_self
    | raiseStop | wakeWatcher | join => cases finished
    | _ => exact List.mem_append_left _ (ih finished)

def reader (hotplug : Hotplug) (monitor : Monitor) : Reader where
  backend := .ofPipeline hotplug.scene.pipeline
  monitor := monitor

end Hotplug

namespace Reader

/-- A reader comes to the end of its flush unless it has to wait for the first discovery. -/
theorem returns_beginFlush_iff {backend : Backend} {monitor : Monitor} :
    Returns { backend, monitor := monitor.beginFlush } ↔
      (backend.awaitsDiscovery = true → backend.shared.discovered = true) := by
  constructor
  · rintro ⟨steps, idle⟩ awaits
    by_contra undiscovered
    have held : next? { backend, monitor := monitor.beginFlush } false = none :=
      next?_eq_none_iff.mpr
        (Or.inr (Or.inl ⟨none, rfl, awaits, Bool.eq_false_iff.mpr undiscovered⟩))
    rw [goOn_of_next?_eq_none held] at idle
    exact nomatch idle
  · intro free
    refine ⟨3, ?_⟩
    have enters : (backend.awaitsDiscovery && !backend.shared.discovered) = false := by
      cases awaits : backend.awaitsDiscovery with
      | false => rfl
      | true => simp [free awaits]
    -- it enters, takes what is there, and calls back if that is a snapshot
    cases waits : backend.shared.ready <;>
      simp [goOn, next?, Monitor.step?, Monitor.beginFlush, Monitor.afterFlush, withShared,
        PublishedState.take, enters, waits]

/-- A reader comes to the end of its wait once the count has moved. -/
theorem returns_waiting_iff {backend : Backend} {monitor : Monitor} {seen : UInt64} :
    Returns { backend, monitor := { monitor with point := .waiting seen } } ↔
      backend.shared.signals ≠ seen := by
  constructor
  · rintro ⟨steps, idle⟩ same
    have held : next? { backend, monitor := { monitor with point := .waiting seen } } false =
        none := by
      refine next?_eq_none_iff.mpr (Or.inr (Or.inr ?_))
      rw [same]
    rw [goOn_of_next?_eq_none held] at idle
    exact nomatch idle
  · intro moved
    refine ⟨1, ?_⟩
    have leaves : backend.shared.mustWait seen = false := by
      simp [PublishedState.mustWait, moved]
    simp [goOn, next?, Monitor.step?, leaves]

end Reader

namespace Hotplug

/-- The discovery is made by a sweep that yields a snapshot. -/
theorem Run.discovered_iff {first last : Hotplug} {events : List Event}
    (run : Run first events last) :
    last.shared.discovered = true ↔
      first.shared.discovered = true ∨
        ∃ snapshot, .scene (.endSweep (.ok snapshot)) ∈ events := by
  rw [run.shared_eq, PublishedState.discovered_replay]
  simp only [List.mem_filterMap, Event.act?_eq_publish_iff, exists_eq_right]

/-- Whoever has noted the count before a shutdown came to its end finds that it has moved on. -/
theorem Run.signals_ne {first last : Hotplug} {events : List Event} (run : Run first events last)
    (unfinished : first.shutdown ≠ .returned) (finished : last.shutdown = .returned)
    (few : (events.filterMap Event.act?).countP Act.arrives < UInt64.size) :
    last.shared.signals ≠ first.shared.signals := by
  intro same
  have counted := PublishedState.signals_replay first.shared (events.filterMap Event.act?)
  rw [← run.shared_eq, same] at counted
  have none := (PublishedState.add_ofNat_eq_self_iff few).mp counted.symm
  have signalled : Act.signal ∈ events.filterMap Event.act? :=
    List.mem_filterMap.mpr ⟨_, run.released unfinished finished, rfl⟩
  exact List.countP_eq_zero.mp none _ signalled rfl

/-- Once the watcher is done no sweep ends. -/
theorem Run.of_done {first last : Hotplug} {events : List Event} (run : Run first events last)
    (done : first.scene.pipeline.point = .done) :
    last.scene.pipeline.point = .done ∧ ∀ swept, .scene (.endSweep swept) ∉ events := by
  induction run with
  | start => exact ⟨done, fun _ => List.not_mem_nil⟩
  | @step events _ _ _ _ next ih =>
    obtain ⟨still, unended⟩ := ih
    have goesOn {event : Event} (other : ∀ swept, event ≠ .scene (.endSweep swept)) (swept) :
        .scene (.endSweep swept) ∉ events ++ [event] := by
      simpa [unended swept] using (other swept).symm
    cases next with
    | scene event after step =>
      obtain ⟨after, -, -, other⟩ := step.of_done still
      exact ⟨after, goesOn fun swept same => other swept (Event.scene.inj same)⟩
    | raiseStop after idle held step => exact ⟨(step.of_done still).1, goesOn nofun⟩
    | wakeWatcher after stands step => exact ⟨(step.of_done still).1, goesOn nofun⟩
    | _ => exact ⟨still, goesOn nofun⟩

/-- A shutdown that has returned can be called for again, which changes nothing. -/
theorem Orderly.of_returned {hotplug : Hotplug} (orderly : Orderly hotplug)
    (finished : hotplug.shutdown = .returned) :
    Step hotplug (.shutdown .returned) hotplug ∧
      ∀ stood after, Step hotplug (.shutdown stood) after → after = hotplug := by
  have gone := orderly.handle (by simp [finished])
  constructor
  · exact .callAgain hotplug (Or.inr finished) gone
  · intro stood after step
    cases step with
    | raiseStop next idle held step => simp [gone] at held
    | wakeWatcher next stands step => simp [finished] at stands
    | join stands done => simp [finished] at stands
    | release stands => simp [finished] at stands
    | callAgain idle gone => rfl

/-- What the shutdown of a backend leaves. Let somebody note the count before the shutdown comes to
its end. Then the watcher has stopped, to shut down again changes nothing, and to wait for the
count to move on ends, if it has not come back to the same number. A flush ends exactly if some
sweep has yielded a snapshot before. -/
theorem shutdown_releases_all_but_the_undiscovered {session : WatchSession}
    {past since : List Event} {middle hotplug : Hotplug}
    (early : Run (started session) past middle) (unfinished : middle.shutdown ≠ .returned)
    (late : Run middle since hotplug) (finished : hotplug.shutdown = .returned) :
    hotplug.scene.pipeline.state = .stopped ∧
    Step hotplug (.shutdown .returned) hotplug ∧
    (∀ stood after, Step hotplug (.shutdown stood) after → after = hotplug) ∧
    (∀ machine : Machine, machine.holdsThread = hotplug.holdsThread →
      machine.shutdown = machine) ∧
    ((since.filterMap Event.act?).countP Act.arrives < UInt64.size → ∀ monitor : Monitor,
      (hotplug.reader { monitor with point := .waiting middle.shared.signals }).Returns) ∧
    ∀ monitor : Monitor, (hotplug.reader monitor.beginFlush).Returns ↔
      ∃ snapshot, .scene (.endSweep (.ok snapshot)) ∈ past ++ since := by
  have orderly := ((Orderly.started session).run early).run late
  have stopped := orderly.kept.stopped.mp (orderly.ended (Or.inr finished))
  obtain ⟨again, unchanged⟩ := orderly.of_returned finished
  refine ⟨stopped, again, unchanged, ?_, ?_, ?_⟩
  · intro machine same
    rw [orderly.handle (by simp [finished])] at same
    exact Machine.shutdown_of_not_holdsThread same
  · intro few monitor
    exact Reader.returns_waiting_iff.mpr (late.signals_ne unfinished finished few)
  · intro monitor
    have discovered : hotplug.shared.discovered = true ↔
        ∃ snapshot, .scene (.endSweep (.ok snapshot)) ∈ past ++ since := by
      rw [Run.discovered_iff late, Run.discovered_iff early]
      simp only [List.mem_append, exists_or]
      have unused : (started session).shared.discovered = false := rfl
      simp [unused]
    rw [← discovered]
    exact Reader.returns_beginFlush_iff.trans (forall_prop_of_true rfl)

/-- A shutdown that is called for while the first sweep goes on: what the sweep yields is still
there to be taken. -/
theorem shutdown_releases_all_but_the_undiscovered_during_sweep :
    ∃ past since middle hotplug, Run (started {}) past middle ∧ Run middle since hotplug ∧
      middle.scene.pipeline.point = .sweeping ∧ hotplug.scene.pipeline.state = .stopped ∧
      ∀ monitor : Monitor, (hotplug.reader monitor.beginFlush).Returns ∧
        (hotplug.reader { monitor with point := .waiting 0 }).Returns := by
  let sweeping : Pipeline := { point := .sweeping, sweeps := 1 }
  let swept : Pipeline :=
    { session := { pipe := ⟨1⟩ }, state := .stopping, published := ⟨some {}, 1, true⟩, sweeps := 1 }
  let done : Pipeline := { swept with state := .stopped, point := .done }
  have early : Run (started {}) _ ⟨⟨sweeping, 0⟩, .uncalled, true⟩ :=
    Trace.start.step (.own _ _ rfl) |>.step (.own _ _ rfl) |>.step (.own _ _ rfl)
      |>.step (.own _ _ rfl) |>.step (.own _ _ rfl) |>.step (.own _ _ rfl)
  have late : Run ⟨⟨sweeping, 0⟩, .uncalled, true⟩ _ ⟨⟨done.signal, 0⟩, .returned, false⟩ :=
    Trace.start.step (.raiseStop _ _ (Or.inl rfl) rfl (.raiseStop _))
      |>.step (.scene _ _ _ (.endSweep _ (.ok {}) rfl) nofun nofun)
      |>.step (.wakeWatcher _ _ rfl (.stopWake _ (Nat.succ_pos _)))
      |>.step (.own _ _ rfl) |>.step (.own _ _ rfl) |>.step (.own _ _ rfl)
      |>.step (.join _ rfl rfl) |>.step (.release _ rfl)
  obtain ⟨stopped, -, -, -, waits, flushes⟩ :=
    shutdown_releases_all_but_the_undiscovered early nofun late rfl
  refine ⟨_, _, _, _, early, late, rfl, stopped, ?_⟩
  intro monitor
  constructor
  · exact (flushes monitor).mpr ⟨{}, by simp⟩
  · exact waits (by decide) monitor

/-- A shutdown that overtakes the first sweep: there is nothing to be taken, and whoever begins a
flush never comes to the end of it. -/
theorem flush_never_returns_after_early_shutdown :
    ∃ events hotplug, Run (started {}) events hotplug ∧ hotplug.shutdown = .returned ∧
      hotplug.scene.pipeline.state = .stopped ∧
      ∀ more later, Run hotplug more later → ∀ monitor : Monitor,
        ¬(later.reader monitor.beginFlush).Returns := by
  let done : Pipeline :=
    { session := { pipe := ⟨2⟩ }, state := .stopped, published := ⟨none, 1, false⟩, point := .done }
  have run : Run (started {}) _ ⟨⟨done, 0⟩, .returned, false⟩ :=
    Trace.start.step (.raiseStop _ _ (Or.inl rfl) rfl (.raiseStop _))
      |>.step (.wakeWatcher _ _ rfl (.stopWake _ (Nat.succ_pos _)))
      |>.step (.own _ _ rfl) |>.step (.own _ _ rfl) |>.step (.own _ _ rfl)
      |>.step (.join _ rfl rfl) |>.step (.release _ rfl)
  refine ⟨_, _, run, rfl, rfl, fun more later further monitor returns => ?_⟩
  have discovered : later.shared.discovered = true :=
    Reader.returns_beginFlush_iff.mp returns rfl
  rcases further.discovered_iff.mp discovered with before | ⟨snapshot, swept⟩
  · exact nomatch before
  · exact (further.of_done rfl).2 _ swept

end Hotplug

end SoundDevices
