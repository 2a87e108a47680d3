import Mathlib.Data.List.Perm.Subperm
import SoundDevices.Proofs.SweepCauses

set_option autoImplicit false

namespace SoundDevices

theorem WakePipe.pending_write_le (pipe : WakePipe) : pipe.write.pending ≤ pipe.pending + 1 := by
  unfold write
  split
  · exact Nat.le_refl _
  · exact Nat.le_succ _

theorem WakePipe.le_pending_write (pipe : WakePipe) : pipe.pending ≤ pipe.write.pending := by
  unfold write
  split
  · exact Nat.le_succ _
  · exact Nat.le_refl _

/-- A record that is put into a queue counts once, if the queue takes it. -/
theorem RecordQueue.countP_push_le (queue : RecordQueue) (queued : QueuedRecord) :
    (queue.push queued).pending.countP QueuedRecord.isPcmNodeChange ≤
      queue.pending.countP QueuedRecord.isPcmNodeChange +
        [queued].countP QueuedRecord.isPcmNodeChange := by
  unfold push
  split
  · exact Nat.le_of_eq (List.countP_append ..)
  · split
    · exact Nat.le_add_right _ _
    · have lost : [QueuedRecord.overflow].countP QueuedRecord.isPcmNodeChange = 0 := by decide
      rw [List.countP_append, lost]
      exact Nat.le_add_right _ _

namespace WatcherPoint

/-- The watcher sweeps before it waits again, unless it finds that a stop was raised. That is so as
soon as wake bytes have roused it, before it has read them. -/
def willSweep : WatcherPoint → Bool
  | roused _ wakeups => wakeups
  | readingChanges wakeups rescan => wakeups || rescan
  | readingWakeups | woken | due => true
  | _ => false

theorem willSweep_afterRoused (stop changes : Bool) :
    (Pipeline.afterRoused stop changes false).willSweep = false := by
  cases stop <;> cases changes <;> rfl

end WatcherPoint

namespace Scene

/-- The kinds of causes, one for each source of the watcher. -/
inductive CauseKind where
  | wakeByte
  | nodeRecord
  deriving DecidableEq, Repr

/-- A cause, by its number among those of its kind that the watcher reads. -/
structure Cause where
  kind : CauseKind
  number : Nat
  deriving DecidableEq, Repr

namespace Event

/-- A cause of this kind arrives, though perhaps at a source that takes no more. -/
def brings : CauseKind → Event → Bool
  | .wakeByte, wake | .wakeByte, stopWake => true
  | .nodeRecord, record queued => queued.isPcmNodeChange
  | _, _ => false

/-- How many causes of this kind the watcher reads. -/
def reads : CauseKind → Event → Nat
  | .wakeByte, readWakeups bytes => bytes
  | .nodeRecord, readChanges records => records.countP QueuedRecord.isPcmNodeChange
  | _, _ => 0

theorem brings_of_isCause_eq_false {event : Event} (none : event.isCause = false)
    (kind : CauseKind) : event.brings kind = false := by
  cases kind with
  | wakeByte =>
    cases event with
    | wake => exact nomatch none
    | stopWake => exact nomatch none
    | _ => rfl
  | nodeRecord =>
    cases event with
    | record queued => exact none
    | _ => rfl

end Event

def readSoFar (kind : CauseKind) (events : List Event) : Nat :=
  events.foldl (fun count event => count + event.reads kind) 0

theorem readSoFar_concat (kind : CauseKind) (events : List Event) (event : Event) :
    readSoFar kind (events ++ [event]) = readSoFar kind events + event.reads kind := by
  simp [readSoFar]

def waiting (scene : Scene) : CauseKind → Nat
  | .wakeByte => scene.pipeline.session.pipe.pending
  | .nodeRecord => scene.pipeline.session.queue.pending.countP QueuedRecord.isPcmNodeChange

/-- How many causes of this kind their source has taken: those that were read, and those that
wait. -/
def queued (scene : Scene) (kind : CauseKind) (events : List Event) : Nat :=
  readSoFar kind events + scene.waiting kind

namespace Cause

/-- The watcher reads this cause, after so much has happened. -/
structure ReadBy (cause : Cause) (past : List Event) (event : Event) : Prop where
  lower : readSoFar cause.kind past ≤ cause.number
  upper : cause.number < readSoFar cause.kind past + event.reads cause.kind

def WasRead (cause : Cause) (past : List Event) : Prop :=
  cause.number < readSoFar cause.kind past

/-- The watcher has read this cause in the round that still goes on. -/
def InRound (cause : Cause) (past : List Event) : Prop :=
  ∃ before reading after, past = before ++ reading :: after ∧ cause.ReadBy before reading ∧
    ∀ event ∈ after, event.endsWait = false

theorem WasRead.concat {cause : Cause} {past : List Event} (wasRead : cause.WasRead past)
    (event : Event) : cause.WasRead (past ++ [event]) := by
  unfold WasRead at wasRead ⊢
  have total := readSoFar_concat cause.kind past event
  omega

theorem ReadBy.wasRead {cause : Cause} {past : List Event} {event : Event}
    (reads : cause.ReadBy past event) : cause.WasRead (past ++ [event]) := by
  unfold WasRead
  have total := readSoFar_concat cause.kind past event
  have upper := reads.upper
  omega

/-- A cause that is read only now has not been read before. -/
theorem ReadBy.not_wasRead {cause : Cause} {past : List Event} {event : Event}
    (reads : cause.ReadBy past event) : ¬ cause.WasRead past :=
  Nat.not_lt.mpr reads.lower

/-- Whoever reads some causes of a kind reads the next one of that kind. -/
theorem readBy_next (kind : CauseKind) (past : List Event) {event : Event}
    (some : 0 < event.reads kind) : ReadBy ⟨kind, readSoFar kind past⟩ past event where
  lower := Nat.le_refl _
  upper := Nat.lt_add_of_pos_right some

theorem ReadBy.inRound {cause : Cause} {past : List Event} {event : Event}
    (reads : cause.ReadBy past event) : cause.InRound (past ++ [event]) :=
  ⟨past, event, [], rfl, reads, nofun⟩

/-- The round goes on until the watcher has waited again. -/
theorem InRound.concat {cause : Cause} {past : List Event} (inRound : cause.InRound past)
    {event : Event} (goesOn : event.endsWait = false) : cause.InRound (past ++ [event]) := by
  obtain ⟨before, reading, after, rfl, reads, sameRound⟩ := inRound
  refine ⟨before, reading, after ++ [event], by simp, reads, ?_⟩
  intro other member
  rcases List.mem_append.mp member with earlier | final
  · exact sameRound other earlier
  · rwa [List.mem_singleton.mp final]

theorem InRound.wasRead {cause : Cause} {past : List Event} (inRound : cause.InRound past) :
    cause.WasRead past := by
  obtain ⟨before, reading, after, rfl, reads, -⟩ := inRound
  induction after using List.reverseRecOn with
  | nil => exact reads.wasRead
  | append_singleton rest event ih =>
    rw [← List.cons_append, ← List.append_assoc]
    exact ih.concat event

end Cause

/-- The causes that the sweeps are charged with, oldest sweep first: each with one that its own
round has read, and that no sweep before it was charged with. -/
inductive Charged : List Event → List Cause → Prop where
  | start : Charged [] []
  | sweep {past : List Event} {charges : List Cause} (cause : Cause)
      (charged : Charged past charges) (inRound : cause.InRound past) (unused : cause ∉ charges) :
      Charged (past ++ [.beginSweep]) (charges ++ [cause])
  | other {past : List Event} {charges : List Cause} {event : Event}
      (charged : Charged past charges) (unbegun : event.isBeginSweep = false) :
      Charged (past ++ [event]) charges

namespace Charged

theorem length_eq {events : List Event} {charges : List Cause} (charged : Charged events charges) :
    charges.length = events.countP Event.isBeginSweep := by
  induction charged with
  | start => rfl
  | sweep cause _ _ _ ih => simp [ih, Event.isBeginSweep]
  | other _ unbegun ih => simp [ih, unbegun]

theorem nodup {events : List Event} {charges : List Cause} (charged : Charged events charges) :
    charges.Nodup := by
  induction charged with
  | start => exact List.nodup_nil
  | @sweep _ charges cause _ _ unused ih =>
    have order := List.perm_append_singleton cause charges
    exact order.nodup_iff.mpr (List.nodup_cons.mpr ⟨unused, ih⟩)
  | other _ _ ih => exact ih

theorem wasRead {events : List Event} {charges : List Cause} (charged : Charged events charges) :
    ∀ cause ∈ charges, cause.WasRead events := by
  induction charged with
  | start => exact nofun
  | sweep cause _ inRound _ ih =>
    intro other member
    rcases List.mem_append.mp member with earlier | final
    · exact (ih other earlier).concat _
    · rw [List.mem_singleton.mp final]
      exact inRound.wasRead.concat _
  | other _ _ ih => exact fun cause member => (ih cause member).concat _

/-- A cause that is read only now is free to be charged. -/
theorem notMem {past : List Event} {charges : List Cause} (charged : Charged past charges)
    {cause : Cause} {event : Event} (reads : cause.ReadBy past event) : cause ∉ charges :=
  fun member => reads.not_wasRead (charged.wasRead cause member)

end Charged

/-- Different causes that were read are no more than were read of both kinds. -/
theorem length_le_readSoFar {events : List Event} {causes : List Cause} (nodup : causes.Nodup)
    (wasRead : ∀ cause ∈ causes, cause.WasRead events) :
    causes.length ≤ readSoFar .wakeByte events + readSoFar .nodeRecord events := by
  let all := (List.range (readSoFar .wakeByte events)).map (Cause.mk .wakeByte) ++
    (List.range (readSoFar .nodeRecord events)).map (Cause.mk .nodeRecord)
  have among : causes ⊆ all := by
    rintro ⟨kind, number⟩ member
    have bound : number < readSoFar kind events := wasRead _ member
    cases kind with
    | wakeByte => exact List.mem_append_left _ (List.mem_map_of_mem (List.mem_range.mpr bound))
    | nodeRecord => exact List.mem_append_right _ (List.mem_map_of_mem (List.mem_range.mpr bound))
  have fewer := (nodup.subperm among).length_le
  simpa [all] using fewer

/-- Nothing is read but what has arrived. -/
theorem Step.waiting_add_reads_le {scene after : Scene} {event : Event}
    (step : Step scene event after) (kind : CauseKind) :
    after.waiting kind + event.reads kind ≤
      scene.waiting kind + [event].countP (Event.brings kind) := by
  cases step with
  | wake =>
    cases kind with
    | wakeByte => exact WakePipe.pending_write_le _
    | nodeRecord => exact Nat.le_refl _
  | record queued =>
    cases kind with
    | wakeByte => exact Nat.le_refl _
    | nodeRecord => exact RecordQueue.countP_push_le _ queued
  | stopWake =>
    cases kind with
    | wakeByte => exact WakePipe.pending_write_le _
    | nodeRecord => exact Nat.le_refl _
  | own next steps =>
    obtain ⟨event, label, move⟩ := Pipeline.move_of_step? steps
    rw [label]
    cases move with
    | readChanges wakeups rescan rest stands waits =>
      cases kind with
      | wakeByte => exact Nat.le_add_right _ _
      | nodeRecord =>
        have total := congrArg (List.countP QueuedRecord.isPcmNodeChange) waits
        rw [List.countP_append] at total
        simp only [waiting, Event.reads]
        omega
    | readWakeups rest stands waits =>
      cases kind with
      | wakeByte =>
        simp only [waiting, Event.reads]
        omega
      | nodeRecord => exact Nat.le_add_right _ _
    | _ => cases kind <;> exact Nat.le_add_right _ _
  | endSweep swept sweeps => cases swept <;> cases kind <;> exact Nat.le_refl _
  | _ => cases kind <;> exact Nat.le_refl _

theorem Run.queued_le {first last : Scene} {events : List Event} (run : Run first events last)
    (kind : CauseKind) :
    last.queued kind events ≤ first.waiting kind + events.countP (Event.brings kind) := by
  induction run with
  | start => exact Nat.le_of_eq (Nat.add_comm _ _)
  | step _ step ih =>
    have more := step.waiting_add_reads_le kind
    unfold queued at ih ⊢
    rw [readSoFar_concat, List.countP_append]
    omega

/-- Some cause that the present round has read is not charged yet. -/
def CanCharge (events : List Event) (charges : List Cause) : Prop :=
  ∃ cause : Cause, cause.InRound events ∧ cause ∉ charges

theorem CanCharge.concat {events : List Event} {charges : List Cause}
    (can : CanCharge events charges) {event : Event} (goesOn : event.endsWait = false) :
    CanCharge (events ++ [event]) charges := by
  obtain ⟨cause, inRound, unused⟩ := can
  exact ⟨cause, inRound.concat goesOn, unused⟩

theorem Charged.canCharge {events : List Event} {charges : List Cause}
    (charged : Charged events charges) {event : Event} (kind : CauseKind)
    (some : 0 < event.reads kind) : CanCharge (events ++ [event]) charges := by
  have reads := Cause.readBy_next kind events some
  exact ⟨_, reads.inRound, charged.notMem reads⟩

/-- What backs a sweep that is to come, by where the watcher stands: a cause that can be charged
with it, or wake bytes that the watcher still has to read. -/
def Backed (scene : Scene) (events : List Event) (charges : List Cause) : Prop :=
  match scene.pipeline.point with
  | .roused _ wakeups => wakeups = true → 0 < scene.waiting .wakeByte
  | .readingChanges wakeups rescan =>
    (wakeups = true → 0 < scene.waiting .wakeByte) ∧ (rescan = true → CanCharge events charges)
  | .readingWakeups => 0 < scene.waiting .wakeByte ∨ CanCharge events charges
  | .woken | .due => CanCharge events charges
  | _ => True

/-- Others only add to what backs a sweep. -/
theorem Backed.concat {scene after : Scene} {events : List Event} {charges : List Cause}
    {event : Event} (backed : scene.Backed events charges)
    (stands : after.pipeline.point = scene.pipeline.point)
    (kept : scene.waiting .wakeByte ≤ after.waiting .wakeByte) (goesOn : event.endsWait = false) :
    after.Backed (events ++ [event]) charges := by
  unfold Backed at backed ⊢
  rw [stands]
  cases point : scene.pipeline.point with
  | roused changes wakeups =>
    simp only [point] at backed ⊢
    exact fun some => Nat.lt_of_lt_of_le (backed some) kept
  | readingChanges wakeups rescan =>
    simp only [point] at backed ⊢
    exact ⟨fun some => Nat.lt_of_lt_of_le (backed.1 some) kept,
      fun found => (backed.2 found).concat goesOn⟩
  | readingWakeups =>
    simp only [point] at backed ⊢
    exact backed.imp (Nat.lt_of_lt_of_le · kept) (·.concat goesOn)
  | woken =>
    simp only [point] at backed ⊢
    exact backed.concat goesOn
  | due =>
    simp only [point] at backed ⊢
    exact backed.concat goesOn
  | _ => trivial

theorem Backed.own {scene : Scene} {next : Pipeline} {event : Event} {events : List Event}
    {charges : List Cause} (backed : scene.Backed events charges) (charged : Charged events charges)
    (move : Pipeline.Move scene.pipeline event next) (unbegun : event.isBeginSweep = false) :
    Backed { scene with pipeline := next } (events ++ [event]) charges := by
  unfold Backed at backed
  cases move with
  | rouse changes wakeups stands changed woken =>
    -- wake bytes back the sweep once they have roused the watcher, before it reads them
    intro some
    rw [woken] at some
    exact (WakePipe.isReadable_iff _).mp some
  | look changes wakeups stands =>
    simp only [stands] at backed
    cases stop : scene.pipeline.stopRequested with
    | true => trivial
    | false =>
      cases changes with
      | true => exact ⟨backed, nofun⟩
      | false =>
        cases wakeups with
        | true => exact Or.inl (backed rfl)
        | false => trivial
  | readChanges wakeups rescan rest stands waits shorter =>
    simp only [stands] at backed
    refine ⟨backed.1, fun found => ?_⟩
    -- a record of a node read just now is a cause that no sweep is charged with
    rcases Bool.or_eq_true _ _ ▸ found with earlier | told
    · exact (backed.2 earlier).concat rfl
    · exact charged.canCharge .nodeRecord (List.countP_pos_iff.mpr (List.any_eq_true.mp told))
  | endChanges wakeups rescan stands drained =>
    simp only [stands] at backed
    cases wakeups with
    | true => exact Or.inl (backed.1 rfl)
    | false =>
      cases rescan with
      | true => exact (backed.2 rfl).concat rfl
      | false => trivial
  | readWakeups rest stands waits fewer =>
    have some : 0 < scene.pipeline.session.pipe.nextRead := by omega
    have can : CanCharge (events ++ [.readWakeups scene.pipeline.session.pipe.nextRead]) charges :=
      charged.canCharge .wakeByte some
    unfold Backed
    simp only [stands]
    exact Or.inr can
  | endWakeups stands drained =>
    simp only [stands] at backed
    rcases backed with some | can
    · have none : scene.waiting .wakeByte = 0 := drained
      omega
    · exact can.concat rfl
  | lookAgain stands =>
    simp only [stands] at backed
    cases stop : scene.pipeline.stopRequested with
    | true => trivial
    | false => exact backed.concat rfl
  | beginSweep stands => exact nomatch unbegun
  | leave stands => trivial

/-- Each step of a run keeps what is charged, or charges one more sweep. -/
theorem Step.charges {scene after : Scene} {event : Event} {events : List Event}
    {charges : List Cause} (step : Step scene event after) (charged : Charged events charges)
    (backed : scene.Backed events charges) :
    ∃ more, Charged (events ++ [event]) more ∧ after.Backed (events ++ [event]) more := by
  cases step with
  | wake =>
    refine ⟨charges, charged.other rfl, backed.concat rfl ?_ rfl⟩
    exact WakePipe.le_pending_write _
  | record queued => exact ⟨charges, charged.other rfl, backed.concat rfl (Nat.le_refl _) rfl⟩
  | raiseStop => exact ⟨charges, charged.other rfl, backed.concat rfl (Nat.le_refl _) rfl⟩
  | stopWake =>
    refine ⟨charges, charged.other rfl, backed.concat rfl ?_ rfl⟩
    exact WakePipe.le_pending_write _
  | interrupt polls => exact ⟨charges, charged.other rfl, nofun⟩
  | own next steps =>
    obtain ⟨event, label, move⟩ := Pipeline.move_of_step? steps
    rw [label]
    cases begins : event.isBeginSweep with
    | false => exact ⟨charges, charged.other begins, backed.own charged move begins⟩
    | true =>
      cases move with
      | beginSweep stands =>
        have can : CanCharge events charges := by
          unfold Backed at backed
          simpa only [stands] using backed
        obtain ⟨cause, inRound, unused⟩ := can
        exact ⟨charges ++ [cause], charged.sweep cause inRound unused, trivial⟩
      | _ => exact nomatch begins
  | endSweep swept sweeps =>
    refine ⟨charges, charged.other rfl, ?_⟩
    cases swept <;> trivial

theorem Run.exists_charged {session : WatchSession} {scene : Scene} {events : List Event}
    (run : Run (fresh session) events scene) :
    ∃ charges, Charged events charges ∧ scene.Backed events charges := by
  induction run with
  | start => exact ⟨[], .start, trivial⟩
  | step _ step ih =>
    obtain ⟨charges, charged, backed⟩ := ih
    exact step.charges charged backed

/-- A sweep that is to come needs a cause of its own besides those that are charged already. -/
theorem Charged.length_add_le {scene : Scene} {events : List Event} {charges : List Cause}
    (charged : Charged events charges) (backed : scene.Backed events charges) :
    charges.length + (if scene.pipeline.point.willSweep then 1 else 0) ≤
      scene.queued .wakeByte events + readSoFar .nodeRecord events := by
  have fewer := length_le_readSoFar charged.nodup charged.wasRead
  -- a byte that waits is queued, and charged to no sweep
  have fromByte (some : 0 < scene.waiting .wakeByte) :
      charges.length + 1 ≤ scene.queued .wakeByte events + readSoFar .nodeRecord events := by
    unfold queued
    omega
  have fromCause (can : CanCharge events charges) :
      charges.length + 1 ≤ scene.queued .wakeByte events + readSoFar .nodeRecord events := by
    obtain ⟨cause, inRound, unused⟩ := can
    have nodup : (cause :: charges).Nodup := List.nodup_cons.mpr ⟨unused, charged.nodup⟩
    have more := length_le_readSoFar nodup
      (List.forall_mem_cons.mpr ⟨inRound.wasRead, charged.wasRead⟩)
    rw [List.length_cons] at more
    unfold queued
    omega
  cases will : scene.pipeline.point.willSweep with
  | false =>
    rw [if_neg Bool.false_ne_true]
    unfold queued
    omega
  | true =>
    rw [if_pos rfl]
    unfold Backed at backed
    cases point : scene.pipeline.point with
    | roused changes wakeups =>
      simp only [point] at backed will
      exact fromByte (backed will)
    | readingChanges wakeups rescan =>
      simp only [point] at backed will
      rcases Bool.or_eq_true _ _ ▸ will with announced | found
      · exact fromByte (backed.1 announced)
      · exact fromCause (backed.2 found)
    | readingWakeups =>
      simp only [point] at backed
      exact backed.elim fromByte fromCause
    | woken =>
      simp only [point] at backed
      exact fromCause backed
    | due =>
      simp only [point] at backed
      exact fromCause backed
    | _ => simp [point, WatcherPoint.willSweep] at will

/-- Nothing is there that leads to a sweep: no sweep goes on or is to come, and no cause waits. -/
structure IsQuiet (scene : Scene) : Prop where
  unasked : scene.pipeline.point.willSweep = false
  unbegun : scene.pipeline.point ≠ .sweeping
  empty : ∀ kind, scene.waiting kind = 0

theorem isQuiet_fresh (limit : Option Nat) : IsQuiet (fresh { queue := { limit } }) where
  unasked := rfl
  unbegun := nofun
  empty := fun kind => by cases kind <;> rfl

/-- A sweep begins only where one was to come. -/
theorem Step.willSweep_of_beginSweep {scene after : Scene} {event : Event}
    (step : Step scene event after) (begins : event = .beginSweep) :
    scene.pipeline.point.willSweep = true := by
  cases step with
  | own next steps =>
    obtain ⟨event, label, move⟩ := Pipeline.move_of_step? steps
    rw [label] at begins
    cases move with
    | beginSweep stands =>
      rw [stands]
      rfl
    | _ => exact nomatch begins
  | _ => exact nomatch begins

/-- Without a new cause no sweep is to come. -/
theorem Step.unasked {scene after : Scene} {event : Event} (step : Step scene event after)
    (quiet : scene.IsQuiet) (unread : ∀ kind, event.reads kind = 0) :
    after.pipeline.point.willSweep = false := by
  have unasked := quiet.unasked
  cases step with
  | interrupt polls => rfl
  | own next steps =>
    obtain ⟨event, label, move⟩ := Pipeline.move_of_step? steps
    rw [label] at unread
    cases move with
    | rouse changes wakeups stands changed woken =>
      have drained : scene.pipeline.session.pipe.pending = 0 := quiet.empty .wakeByte
      show wakeups = false
      rw [woken, WakePipe.isReadable, drained]
      rfl
    | look changes wakeups stands =>
      rw [stands] at unasked
      obtain rfl : wakeups = false := unasked
      exact WatcherPoint.willSweep_afterRoused _ changes
    | readChanges wakeups rescan rest stands =>
      rw [stands] at unasked
      obtain ⟨rfl, rfl⟩ : wakeups = false ∧ rescan = false := Bool.or_eq_false_iff.mp unasked
      -- there are records to be read, but none is a cause
      have irrelevant := List.countP_eq_zero.mp (unread .nodeRecord)
      rw [List.any_eq_false.mpr irrelevant]
      rfl
    | endChanges wakeups rescan stands =>
      rw [stands] at unasked
      obtain ⟨rfl, rfl⟩ : wakeups = false ∧ rescan = false := Bool.or_eq_false_iff.mp unasked
      rfl
    | leave stands => rfl
    | readWakeups rest stands => simp [stands, WatcherPoint.willSweep] at unasked
    | endWakeups stands => simp [stands, WatcherPoint.willSweep] at unasked
    | lookAgain stands => simp [stands, WatcherPoint.willSweep] at unasked
    | beginSweep stands => simp [stands, WatcherPoint.willSweep] at unasked
  | endSweep swept sweeps => exact absurd sweeps quiet.unbegun
  | _ => exact unasked

/-- Without a new cause all stays quiet: no sweep begins, and none ends. -/
theorem Step.of_isQuiet {scene after : Scene} {event : Event} (step : Step scene event after)
    (quiet : scene.IsQuiet) (none : event.isCause = false) :
    after.IsQuiet ∧ event ≠ .beginSweep ∧ (∀ swept, event ≠ .endSweep swept) ∧
      after.pipeline.published = scene.pipeline.published := by
  have nothing (kind : CauseKind) : after.waiting kind = 0 ∧ event.reads kind = 0 := by
    have bound := step.waiting_add_reads_le kind
    have unbrought := Event.brings_of_isCause_eq_false none kind
    rw [quiet.empty kind, List.countP_singleton, unbrought] at bound
    exact Nat.add_eq_zero_iff.mp (Nat.le_zero.mp bound)
  have unasked := step.unasked quiet fun kind => (nothing kind).2
  have unbegun : event ≠ .beginSweep := fun begins =>
    Bool.noConfusion (quiet.unasked ▸ step.willSweep_of_beginSweep begins)
  rcases step.sweeping_cases with ⟨begun, -⟩ | ⟨swept, -, sweeps, -⟩ | ⟨-, unended, same, sweeping⟩
  · exact absurd begun unbegun
  · exact absurd sweeps quiet.unbegun
  · have elsewhere := mt sweeping.mp quiet.unbegun
    exact ⟨⟨unasked, elsewhere, fun kind => (nothing kind).1⟩, unbegun, unended, same⟩

theorem Run.of_isQuiet {first last : Scene} {events : List Event} (run : Run first events last)
    (quiet : first.IsQuiet) (none : ∀ event ∈ events, event.isCause = false) :
    last.IsQuiet ∧ .beginSweep ∉ events ∧ (∀ swept, .endSweep swept ∉ events) ∧
      last.pipeline.published = first.pipeline.published := by
  induction run with
  | start => exact ⟨quiet, List.not_mem_nil, fun _ => List.not_mem_nil, rfl⟩
  | @step events scene last event run step ih =>
    have before : ∀ event ∈ events, event.isCause = false :=
      fun event member => none event (List.mem_append_left _ member)
    have harmless := none event (List.mem_append_right _ List.mem_cons_self)
    obtain ⟨still, unbegun, unended, same⟩ := ih before
    obtain ⟨after, noBegin, noEnd, unchanged⟩ := step.of_isQuiet still harmless
    refine ⟨after, ?_, fun swept => ?_, unchanged.trans same⟩
    · simpa [unbegun] using noBegin.symm
    · simpa [unended swept] using (noEnd swept).symm

/-- No sweep without a cause, for all orders of wakes, records, stop requests and steps of the
watcher. The sweeps that have begun, and the one that is to come if there is one, are no more than
the wakes and the records of sound device nodes that the queue took; each sweep is charged with a
cause that its own round has read, and none is charged twice. Records of other things lead to no
sweep, and nothing is published on their account. -/
theorem sweeps_are_charged_to_causes {limit : Option Nat} {events : List Event} {scene : Scene}
    (run : Run (fresh { queue := { limit } }) events scene) :
    (scene.pipeline.sweeps + (if scene.pipeline.point.willSweep then 1 else 0) ≤
        events.countP (Event.brings .wakeByte) + scene.queued .nodeRecord events ∧
      scene.queued .nodeRecord events ≤ events.countP (Event.brings .nodeRecord)) ∧
    (∃ charges, Charged events charges ∧ charges.length = scene.pipeline.sweeps ∧
      charges.Nodup) ∧
    (∀ more later, Run scene more later → scene.IsQuiet →
      (∀ event ∈ more, event.isCause = false) →
        .beginSweep ∉ more ∧ (∀ swept, .endSweep swept ∉ more) ∧
          later.pipeline.published = scene.pipeline.published) := by
  obtain ⟨charges, charged, backed⟩ := run.exists_charged
  have swept : charges.length = scene.pipeline.sweeps := by
    have total := run.sweeps_eq
    rw [charged.length_eq, total]
    exact (Nat.zero_add _).symm
  have taken (kind : CauseKind) : scene.queued kind events ≤ events.countP (Event.brings kind) := by
    have bound := run.queued_le kind
    rwa [(isQuiet_fresh limit).empty kind, Nat.zero_add] at bound
  refine ⟨⟨?_, taken .nodeRecord⟩, ⟨charges, charged, swept, charged.nodup⟩, ?_⟩
  · have bound := charged.length_add_le backed
    have wakes := taken .wakeByte
    have read : readSoFar .nodeRecord events ≤ scene.queued .nodeRecord events :=
      Nat.le_add_right _ _
    omega
  · intro more later further quiet none
    exact (further.of_isQuiet quiet none).2

/-- The node of a mixer is made, which is no sound device node. -/
def mixerNode : QueuedRecord :=
  .change maskCreate ⟨Text.encode "controlC0", by decide, by decide⟩

/-- One sweep answers two wakes, and is charged with one of their bytes. The record of a mixer's
node rouses the watcher again, and nothing more is published. -/
theorem sweeps_are_charged_to_causes_two_wakes :
    ∃ events scene, Run (fresh {}) events scene ∧ scene.pipeline.sweeps = 1 ∧
      events.countP (Event.brings .wakeByte) = 2 ∧
      (∃ charges, Charged events charges ∧ charges.length = 1) ∧
      ∃ later, Run scene [.record mixerNode, .rouse] later ∧
        later.pipeline.published = scene.pipeline.published := by
  have woken : Run (fresh {}) [.wake, .wake]
      { pipeline := { session := { pipe := ⟨2⟩ } } } :=
    Run.start.step (.wake _) |>.step (.wake _)
  have roused : Run (fresh {}) [.wake, .wake, .rouse, .move]
      { pipeline := { session := { pipe := ⟨2⟩ }, point := .readingWakeups } } :=
    woken.step (.own _ _ rfl) |>.step (.own _ _ rfl)
  have read : Run (fresh {}) [.wake, .wake, .rouse, .move, .readWakeups 2, .readWakeups 0]
      { pipeline := { point := .woken } } :=
    roused.step (.own _ _ rfl) |>.step (.own _ _ rfl)
  have swept : Run (fresh {}) [.wake, .wake, .rouse, .move, .readWakeups 2, .readWakeups 0, .move,
      .beginSweep, .endSweep (.ok .empty)]
      { pipeline := { sweeps := 1, published := ⟨some .empty, 1, true⟩ } } :=
    read.step (.own _ _ rfl) |>.step (.own _ _ rfl) |>.step (.endSweep _ _ rfl)
  have noted : Run { pipeline := { sweeps := 1, published := ⟨some .empty, 1, true⟩ } }
      [.record mixerNode, .rouse] _ :=
    Run.start.step (.record _ mixerNode) |>.step (.own _ _ rfl)
  obtain ⟨-, ⟨charges, charged, one, -⟩, harmless⟩ := sweeps_are_charged_to_causes swept
  have quiet := harmless _ _ noted ⟨rfl, nofun, fun kind => by cases kind <;> rfl⟩ (by decide)
  exact ⟨_, _, swept, rfl, rfl, ⟨charges, charged, one⟩, _, noted, quiet.2.2⟩

end Scene

end SoundDevices
