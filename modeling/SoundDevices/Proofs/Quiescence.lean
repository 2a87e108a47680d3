import SoundDevices.Proofs.SweepCauses
import SoundDevices.Watch.Backend

set_option autoImplicit false

namespace SoundDevices

namespace Scene

/-- Some cause has not been taken yet, or the watcher has taken one and is committed to a sweep. -/
def IsDue (scene : Scene) : Prop :=
  (∃ cause : Event, cause.isCause = true ∧ scene.Holds cause) ∨
    scene.pipeline.point.isCommitted = true

/-- A sweep that is due stays due until one begins. -/
theorem Step.isDue {scene after : Scene} {event : Event} (step : Step scene event after)
    (running : scene.pipeline.state = .running) (fits : scene.Fits event) (due : scene.IsDue)
    (unbegun : event ≠ .beginSweep) : after.IsDue := by
  rcases due with ⟨cause, isCause, holds⟩ | committed
  · rcases step.holds_or_takes isCause fits holds with stillHolds | ⟨-, committed⟩
    · exact Or.inl ⟨cause, isCause, stillHolds⟩
    · exact Or.inr committed
  · exact Or.inr (step.of_isCommitted running committed unbegun).1

end Scene

namespace Monitor

/-- The newest snapshot published so far, whether or not the reader has taken it. -/
def newest (monitor : Monitor) (shared : SharedSnapshot) : Option Snapshot :=
  shared.ready <|> monitor.current

/-- A reader takes a snapshot without losing one. -/
theorem newest_step? {awaitsDiscovery stop : Bool} {monitor after : Monitor}
    {shared left : SharedSnapshot}
    (steps : monitor.step? awaitsDiscovery stop shared = some (after, left)) :
    after.newest left = monitor.newest shared := by
  unfold step? at steps
  cases stands : monitor.point with
  | idle => simp [stands] at steps
  | counted seen =>
    simp only [stands] at steps
    cases steps
    rfl
  | flushing rest =>
    simp only [stands] at steps
    split at steps <;> cases steps
    rfl
  | taking rest =>
    simp only [stands] at steps
    cases waits : shared.ready with
    | none =>
      simp only [PublishedState.take, waits] at steps
      cases steps
      simp [newest, waits]
    | some snapshot =>
      simp only [PublishedState.take, waits] at steps
      cases steps
      simp [newest, waits]
  | notifying rest =>
    simp only [stands] at steps
    cases steps
    rfl
  | waiting seen =>
    simp only [stands] at steps
    split at steps <;> cases steps
    rfl

end Monitor

/-- A machine at work: the sound system it has at present, the scene of its watcher, and a reader.
So many changes of the system are `owed` a record; the system is `disturbed` if it has changed
since the latest sweep began. -/
structure Site where
  system : SoundSystem
  preferred : UInt32
  scene : Scene
  monitor : Monitor := {}
  owed : Nat := 0
  disturbed : Bool := false

namespace Site

def backend (site : Site) : Backend := .ofPipeline site.scene.pipeline

def withShared (site : Site) (published : SharedSnapshot) : Site :=
  { site with scene := { site.scene with pipeline := { site.scene.pipeline with published } } }

/-- What a sweep may yield: what the system answers, or any snapshot if it changed meanwhile. -/
def Yields (site : Site) (swept : Except Error Snapshot) : Prop :=
  ∃ snapshot, swept = .ok snapshot ∧
    (site.disturbed = false → enumerate site.system site.preferred = .ok snapshot)

/-- What can happen to a site next. Each change has to be announced by a record some time later,
and the queue has room for all records. -/
inductive Step : Site → Site → Prop where
  | change (site : Site) (system : SoundSystem) :
      Step site { site with system, owed := site.owed + 1, disturbed := true }
  | announce (site : Site) (queued : QueuedRecord) (owes : 0 < site.owed)
      (relevant : queued.isPcmNodeChange = true) (fits : site.scene.Fits (.record queued)) :
      Step site
        { site with
          scene := { site.scene with pipeline := site.scene.pipeline.record queued }
          owed := site.owed - 1 }
  | scene (site : Site) (event : Scene.Event) (after : Scene)
      (step : Scene.Step site.scene event after) (fits : site.scene.Fits event)
      (yields : ∀ swept, event = .endSweep swept → site.Yields swept) :
      Step site
        { site with
          scene := after
          disturbed := site.disturbed && !event.isBeginSweep }
  | signal (site : Site) : Step site (site.withShared site.backend.shared.signal)
  | beginFlush (site : Site) (idle : site.monitor.point = .idle) :
      Step site { site with monitor := site.monitor.beginFlush }
  | beginWait (site : Site) (idle : site.monitor.point = .idle) :
      Step site { site with monitor := site.monitor.beginWait site.backend.shared }
  | read (site : Site) (stop : Bool) (monitor : Monitor) (shared : SharedSnapshot)
      (steps : site.monitor.step? site.backend.awaitsDiscovery stop site.backend.shared =
        some (monitor, shared)) :
      Step site { site.withShared shared with monitor }

/-- A site that can come about once a backend has been started. -/
inductive Reachable : Site → Prop where
  | start (disk : Disk) (shown path : String) (system : SoundSystem) (preferred : UInt32)
      (pipeline : Pipeline) (watches : Pipeline.watch disk shown path = .ok pipeline) :
      Reachable { system, preferred, scene := ⟨pipeline.wake, 0⟩ }
  | step {site after : Site} (reachable : Reachable site) (step : Step site after) :
      Reachable after

/-- A sweep is to come, or the record that leads to it. -/
def Awaits (site : Site) : Prop := 0 < site.owed ∨ site.scene.IsDue

/-- The newest snapshot is what the system answers at present. -/
def UpToDate (site : Site) : Prop :=
  ∃ snapshot, enumerate site.system site.preferred = .ok snapshot ∧
    site.monitor.newest site.backend.shared = some snapshot

/-- What holds as long as nobody stops the watcher: a snapshot that is out of date is about to be
replaced, and a sweep that may have missed a change is not the last. -/
structure Attended (site : Site) : Prop where
  replaced : site.Awaits ∨
    (site.scene.pipeline.point = .sweeping ∧ site.disturbed = false) ∨ site.UpToDate
  repeated : site.scene.pipeline.point = .sweeping → site.disturbed = true → site.Awaits

theorem Attended.of_awaits {site : Site} (awaits : site.Awaits) : site.Attended :=
  ⟨Or.inl awaits, fun _ _ => awaits⟩

/-- A step of the watcher, or of those who wake, stop or feed it. -/
theorem Attended.scene {site : Site} {event : Scene.Event} {after : Scene}
    (attended : site.Attended) (running : site.scene.pipeline.state = .running)
    (step : Scene.Step site.scene event after) (fits : site.scene.Fits event)
    (yields : ∀ swept, event = .endSweep swept → site.Yields swept) :
    Attended
      { site with
        scene := after
        disturbed := site.disturbed && !event.isBeginSweep } := by
  have stillAwaits (unbegun : event ≠ .beginSweep) :
      site.Awaits → 0 < site.owed ∨ after.IsDue :=
    fun awaits => awaits.imp_right fun due => step.isDue running fits due unbegun
  rcases step.sweeping_cases with
    ⟨rfl, sweeping⟩ | ⟨swept, rfl, sweeping, ended⟩ | ⟨unbegun, -, published, sweeping⟩
  · -- a sweep that begins now will see every change made so far
    have undisturbed : (site.disturbed && !Scene.Event.beginSweep.isBeginSweep) = false := by
      simp [Scene.Event.isBeginSweep]
    refine ⟨Or.inr (Or.inl ⟨sweeping, undisturbed⟩), fun _ disturbed => ?_⟩
    exact nomatch undisturbed.symm.trans disturbed
  · -- a snapshot that may have missed a change is replaced by that of another sweep
    obtain ⟨snapshot, rfl, right⟩ := yields swept rfl
    have polls : after.pipeline.point ≠ .sweeping := by simp [ended, Pipeline.endSweep]
    refine ⟨?_, fun sweeps => absurd sweeps polls⟩
    cases disturbed : site.disturbed with
    | false =>
      refine Or.inr (Or.inr ⟨snapshot, right disturbed, ?_⟩)
      show site.monitor.newest after.pipeline.published = some snapshot
      rw [ended]
      rfl
    | true => exact Or.inl (stillAwaits nofun (attended.repeated sweeping disturbed))
  · -- nothing else begins or ends a sweep, or publishes
    have other : event.isBeginSweep = false := by
      cases event with
      | beginSweep => exact absurd rfl unbegun
      | _ => rfl
    have same : (site.disturbed && !event.isBeginSweep) = site.disturbed := by simp [other]
    rw [same]
    constructor
    · rcases attended.replaced with awaits | ⟨sweeps, undisturbed⟩ | ⟨snapshot, right, newest⟩
      · exact Or.inl (stillAwaits unbegun awaits)
      · exact Or.inr (Or.inl ⟨sweeping.mpr sweeps, undisturbed⟩)
      · refine Or.inr (Or.inr ⟨snapshot, right, ?_⟩)
        show site.monitor.newest after.pipeline.published = some snapshot
        rw [published]
        exact newest
    · intro sweeps disturbed
      exact stillAwaits unbegun (attended.repeated (sweeping.mp sweeps) disturbed)

/-- A step of the reader, or a signal to it. -/
theorem Attended.reader {site : Site} (attended : site.Attended) (monitor : Monitor)
    (shared : SharedSnapshot)
    (same : monitor.newest shared = site.monitor.newest site.backend.shared) :
    Attended { site.withShared shared with monitor } := by
  refine ⟨attended.replaced.imp_right (Or.imp_right ?_), attended.repeated⟩
  rintro ⟨snapshot, right, newest⟩
  exact ⟨snapshot, right, same.trans newest⟩

theorem Step.attended {site after : Site} (step : Step site after) (attended : site.Attended)
    (running : site.scene.pipeline.state = .running) : after.Attended := by
  cases step with
  | change system => exact .of_awaits (Or.inl (Nat.succ_pos _))
  | announce queued owes relevant fits =>
    have holds := (Scene.Step.record site.scene queued).holds_of_isCause relevant fits
    exact .of_awaits (Or.inr (Or.inl ⟨.record queued, relevant, holds⟩))
  | scene event next step fits yields => exact attended.scene running step fits yields
  | signal => exact attended.reader site.monitor site.backend.shared.signal rfl
  | beginFlush idle => exact attended.reader site.monitor.beginFlush site.backend.shared rfl
  | beginWait idle => exact attended.reader (site.monitor.beginWait _) site.backend.shared rfl
  | read stop monitor shared steps =>
    exact attended.reader monitor shared (Monitor.newest_step? steps)

theorem Step.ran {site after : Site} (step : Step site after)
    (running : after.scene.pipeline.state = .running) : site.scene.pipeline.state = .running := by
  cases step with
  | scene event next step fits yields => exact step.ran running
  | _ => exact running

theorem Reachable.attended {site : Site} (reachable : site.Reachable)
    (running : site.scene.pipeline.state = .running) : site.Attended := by
  induction reachable with
  | start disk shown path system preferred pipeline watches =>
    have woken : 0 < pipeline.wake.session.pipe.pending := WakePipe.pending_write_pos _
    exact .of_awaits (Or.inr (Or.inl ⟨.wake, rfl, woken⟩))
  | @step site after reachable step ih =>
    have ran := step.ran running
    exact step.attended (ih ran) ran

/-- Once everything is at rest the reader has what the system answers at present: if the watcher
runs and waits, nothing is left to read, every change has had its record, and no snapshot waits to
be taken, then the snapshot that the reader has is that of the system as it is. -/
theorem current_at_rest {site : Site} (reachable : site.Reachable)
    (running : site.scene.pipeline.state = .running)
    (blocked : site.scene.pipeline.isBlocked = true) (announced : site.owed = 0)
    (taken : site.scene.pipeline.published.ready = none) :
    ∃ snapshot, enumerate site.system site.preferred = .ok snapshot ∧
      site.monitor.current = some snapshot := by
  have polls : site.scene.pipeline.point = .polling := by
    simp only [Pipeline.isBlocked, Bool.and_eq_true, beq_iff_eq] at blocked
    exact blocked.1.1
  rcases (reachable.attended running).replaced with
    (owes | ⟨cause, isCause, holds⟩ | committed) | ⟨sweeps, -⟩ | ⟨snapshot, right, newest⟩
  · omega
  · have unblocked := Scene.isBlocked_of_holds holds
    exact absurd (unblocked.symm.trans blocked) Bool.false_ne_true
  · rw [polls] at committed
    exact absurd committed Bool.false_ne_true
  · have elsewhere : WatcherPoint.polling ≠ .sweeping := by decide
    exact absurd (polls.symm.trans sweeps) elsewhere
  · refine ⟨snapshot, right, ?_⟩
    have unread : site.backend.shared.ready = none := taken
    simpa [Monitor.newest, unread] using newest

def nodeGone : QueuedRecord :=
  .change maskDelete ⟨Text.encode "pcmC0D0p", by decide, by decide⟩

/-- The watcher can always take its own step. -/
theorem Reachable.own {site : Site} (reachable : site.Reachable) (next : Pipeline)
    (steps : site.scene.pipeline.step? = some next) :
    Reachable
      { site with
        scene := { site.scene with pipeline := next }
        disturbed := site.disturbed && !(Scene.Event.own site.scene.pipeline).isBeginSweep } := by
  obtain ⟨event, label, move⟩ := Pipeline.move_of_step? steps
  refine .step reachable (.scene _ _ _ (.own _ _ steps) ?_ ?_)
  · rintro queued own
    rw [label] at own
    cases move <;> exact nomatch own
  · rintro swept own
    rw [label] at own
    cases move <;> exact nomatch own

/-- The last card is unplugged during the first sweep, which yields a snapshot with devices that
are gone. The reader takes it, then the record comes, and in the end the reader has no devices. -/
theorem current_at_rest_after_unplugging :
    ∃ site, Reachable site ∧ site.system = .silent ∧
      site.monitor.notified = [dummySnapshot, {}] ∧ site.monitor.current = some {} := by
  let card : SoundSystem := { SoundSystem.silent with cards := .ok [0] }
  let disk : Disk := ⟨fun _ => true, fun _ => .error .isADirectory, fun _ => .ok ()⟩
  let quiet : WatchSession := ⟨{ limit := some WatchSession.kernelLimit }, {}⟩
  let noted : WatchSession := ⟨⟨[nodeGone], some WatchSession.kernelLimit⟩, {}⟩
  have reading : Reachable
      { system := card, preferred := 48000
        scene := { pipeline := { session := quiet, point := .readingWakeups } } } :=
    Reachable.start disk "/dev/snd" "/dev/snd" _ _ _ rfl
      |>.own _ rfl |>.own _ rfl |>.own _ rfl
  have sweeping : Reachable
      { system := card, preferred := 48000
        scene := { pipeline := { session := quiet, point := .sweeping, sweeps := 1 } } } :=
    reading |>.own _ rfl |>.own _ rfl |>.own _ rfl
  have stale : Reachable
      { system := .silent, preferred := 48000, owed := 1, disturbed := true
        scene := { pipeline :=
          { session := quiet, sweeps := 1, published := ⟨some dummySnapshot, 1, true⟩ } } } :=
    sweeping |>.step (.change _ .silent)
      |>.step (.scene _ _ _ (.endSweep _ (.ok dummySnapshot) rfl) nofun
        fun _ same => ⟨dummySnapshot, (Scene.Event.endSweep.inj same).symm, nofun⟩)
  have taken : Reachable
      { system := .silent, preferred := 48000, owed := 1, disturbed := true
        monitor := ⟨some dummySnapshot, [dummySnapshot], .idle⟩
        scene := { pipeline :=
          { session := quiet, sweeps := 1, published := ⟨none, 1, true⟩ } } } :=
    stale |>.step (.beginFlush _ rfl) |>.step (.read _ false _ _ rfl)
      |>.step (.read _ false _ _ rfl) |>.step (.read _ false _ _ rfl)
  have announced : Reachable
      { system := .silent, preferred := 48000, disturbed := true
        monitor := ⟨some dummySnapshot, [dummySnapshot], .idle⟩
        scene := { pipeline :=
          { session := noted, sweeps := 1, published := ⟨none, 1, true⟩
            point := .readingChanges false false } } } :=
    taken |>.step (.announce _ nodeGone (Nat.succ_pos _) (by decide) fun _ _ => rfl)
      |>.own _ rfl |>.own _ rfl
  have told : Pipeline.step?
      { session := noted, sweeps := 1, published := ⟨none, 1, true⟩
        point := .readingChanges false false } =
      some
        { session := quiet, sweeps := 1, published := ⟨none, 1, true⟩
          point := .readingChanges false true } := by
    have change : hasPcmNodeChange ([nodeGone].flatMap QueuedRecord.encode) = true := by
      rw [QueuedRecord.hasPcmNodeChange_encode]
      decide
    exact congrArg
      (fun rescan => some
        ({ session := quiet, sweeps := 1, published := ⟨none, 1, true⟩
           point := .readingChanges false rescan } : Pipeline)) change
  have rested : Reachable
      { system := .silent, preferred := 48000
        monitor := ⟨some {}, [dummySnapshot, {}], .idle⟩
        scene := { pipeline :=
          { session := quiet, sweeps := 2, published := ⟨none, 2, true⟩ } } } :=
    announced |>.own _ told |>.own _ rfl |>.own _ rfl
      |>.step (.scene _ _ _ (.endSweep _ (.ok {}) rfl) nofun
        fun _ same => ⟨{}, (Scene.Event.endSweep.inj same).symm, fun _ => rfl⟩)
      |>.step (.beginFlush _ rfl) |>.step (.read _ false _ _ rfl)
      |>.step (.read _ false _ _ rfl) |>.step (.read _ false _ _ rfl)
  obtain ⟨snapshot, right, current⟩ := current_at_rest rested rfl rfl rfl rfl
  have nothing : enumerate .silent 48000 = .ok {} := rfl
  obtain rfl := Except.ok.inj (right.symm.trans nothing)
  exact ⟨_, rested, rfl, rfl, current⟩

end Site

end SoundDevices
