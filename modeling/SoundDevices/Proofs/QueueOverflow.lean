import SoundDevices.Proofs.RecordReads
import SoundDevices.Proofs.SweepCauses

set_option autoImplicit false

namespace SoundDevices

/-- An entry of the watched directory is removed, or else made. -/
structure EntryChange where
  removed : Bool
  kind : EntryKind
  name : EntryName
  deriving DecidableEq, Repr

namespace EntryChange

def record (change : EntryChange) : QueuedRecord :=
  let mask := if change.removed then maskDelete else maskCreate
  .change (match change.kind with | .file => mask | .folder => mask ||| maskDirectory) change.name

/-- What comes or goes is no directory, and has a name of eight bytes or more that begins with
`pcm`. -/
def IsSoundNode (change : EntryChange) : Prop :=
  change.kind = .file ∧ 8 ≤ change.name.bytes.length ∧ Text.encode "pcm" <+: change.name.bytes

instance (change : EntryChange) : Decidable change.IsSoundNode :=
  inferInstanceAs (Decidable (_ ∧ _ ∧ _))

theorem exists_record_of_create {tree : FileTree} {kind : EntryKind} {path : String}
    {change : FolderChange} (member : change ∈ (tree.create kind path).2) :
    ∃ entry : EntryChange, change.record = entry.record := by
  unfold FileTree.create at member
  split at member
  · exact nomatch member
  · next spot _ =>
    split at member
    · exact nomatch member
    · obtain rfl := List.mem_singleton.mp member
      exact ⟨⟨false, kind, spot.entry⟩, rfl⟩

theorem exists_record_of_delete {tree : FileTree} {kind : EntryKind} {path : String}
    {change : FolderChange} (member : change ∈ (tree.delete kind path).2) :
    ∃ entry : EntryChange, change.record = entry.record := by
  unfold FileTree.delete at member
  split at member
  · exact nomatch member
  · next spot _ =>
    split at member
    · exact nomatch member
    · split at member
      · obtain rfl := List.mem_singleton.mp member
        exact ⟨⟨true, kind, spot.entry⟩, rfl⟩
      · exact nomatch member

theorem exists_record_of_perform {tree : FileTree} {action : FileAction} {change : FolderChange}
    (member : change ∈ (tree.perform action).2) :
    ∃ entry : EntryChange, change.record = entry.record := by
  cases action with
  | touch path => exact exists_record_of_create member
  | makeFolder path => exact exists_record_of_create member
  | remove path => exact exists_record_of_delete member
  | removeFolder path => exact exists_record_of_delete member
  | rename source target => exact nomatch member
  | moveIn path => exact nomatch member

/-- Whatever is done to the files, all that is ever recorded are entries made and removed. -/
theorem exists_record_of_performAll {tree : FileTree} {actions : List FileAction}
    {change : FolderChange} (member : change ∈ (tree.performAll actions).2) :
    ∃ entry : EntryChange, change.record = entry.record := by
  induction actions generalizing tree with
  | nil => exact nomatch member
  | cons action actions ih =>
    rcases List.mem_append.mp member with now | later
    · exact exists_record_of_perform now
    · exact ih later

/-- The record of a change tells of a sound device node exactly if one came or went. -/
theorem isPcmNodeChange_record_iff (change : EntryChange) :
    change.record.isPcmNodeChange = true ↔ change.IsSoundNode := by
  have made : maskCreate &&& (maskCreate ||| maskDelete) ≠ 0 ∧
      maskCreate &&& maskDirectory = 0 := by decide
  have removed : maskDelete &&& (maskCreate ||| maskDelete) ≠ 0 ∧
      maskDelete &&& maskDirectory = 0 := by decide
  have folder : (maskCreate ||| maskDirectory) &&& maskDirectory ≠ 0 ∧
      (maskDelete ||| maskDirectory) &&& maskDirectory ≠ 0 := by decide
  obtain ⟨gone, kind, name⟩ := change
  cases kind with
  | file =>
    cases gone <;>
      simp [record, IsSoundNode, QueuedRecord.isPcmNodeChange, QueuedRecord.record,
        ChangeRecord.isPcmNodeChange, made, removed]
  | folder =>
    cases gone <;>
      simp [record, IsSoundNode, QueuedRecord.isPcmNodeChange, QueuedRecord.record,
        ChangeRecord.isPcmNodeChange, folder]

theorem any_isPcmNodeChange_iff (changes : List EntryChange) :
    (changes.map record).any QueuedRecord.isPcmNodeChange = true ↔
      ∃ change ∈ changes, change.IsSoundNode := by
  simp only [List.any_map, List.any_eq_true, Function.comp_apply, isPcmNodeChange_record_iff]

end EntryChange

namespace RecordQueue

/-- A full queue notes nothing of a record but its loss. -/
theorem any_push_of_isFull {queue : RecordQueue} {tells : QueuedRecord → Bool}
    (queued : QueuedRecord) (full : queue.isFull = true) (silent : tells .overflow = false) :
    (queue.push queued).pending.any tells = queue.pending.any tells := by
  simp only [push, full, Bool.not_true, Bool.false_eq_true, ↓reduceIte]
  split
  · rfl
  · simp [silent]

/-- Of some records a queue keeps those that it has room for, and nothing of the others but their
loss. -/
theorem any_pushAll {queue : RecordQueue} {limit : Nat} {tells : QueuedRecord → Bool}
    (records : List QueuedRecord) (limited : queue.limit = some limit)
    (silent : tells .overflow = false) :
    (queue.pushAll records).pending.any tells =
      (queue.pending ++ records.take (limit - queue.pending.length)).any tells := by
  have room : queue.room records.length = limit - queue.pending.length := by
    simp only [RecordQueue.room, limited]
  simp only [pushAll, room]
  cases lost : records.drop (limit - queue.pending.length) with
  | nil => rfl
  | cons first more =>
    refine any_push_of_isFull first ?_ silent
    have long := congrArg List.length lost
    simp only [List.length_drop, List.length_cons] at long
    simp only [isFull, limited, List.length_append, List.length_take, decide_eq_true_eq]
    omega

end RecordQueue

namespace WatchSession

/-- A drain tells of the records since the last one that the queue has taken, and of no others. -/
theorem drainChanges_recordAll_fst {session : WatchSession} {limit : Nat}
    (records : List QueuedRecord) (limited : session.queue.limit = some limit) :
    (session.drainChanges.2.recordAll records).drainChanges.1 =
      (records.take limit).any QueuedRecord.isPcmNodeChange := by
  have silent : QueuedRecord.isPcmNodeChange .overflow = false := by decide
  have emptied : session.drainChanges.2.queue.pending = [] := by rw [queue_drainChanges]
  have still : session.drainChanges.2.queue.limit = some limit := by
    rw [queue_drainChanges]
    exact limited
  rw [drainChanges_fst, recordAll, RecordQueue.any_pushAll _ still silent, emptied,
    List.nil_append, List.length_nil, Nat.sub_zero]

theorem drainChanges_recordAll_iff {session : WatchSession} {limit : Nat}
    (changes : List EntryChange) (limited : session.queue.limit = some limit) :
    (session.drainChanges.2.recordAll (changes.map EntryChange.record)).drainChanges.1 = true ↔
      ∃ change ∈ changes.take limit, change.IsSoundNode := by
  rw [drainChanges_recordAll_fst _ limited, ← List.map_take, EntryChange.any_isPcmNodeChange_iff]

/-- A change that the queue would have taken is told also where changes like the last are not
recorded again: the queue then takes it all the more. -/
theorem drainChanges_recordMerged {session : WatchSession} {limit : Nat}
    {changes : List EntryChange} (limited : session.queue.limit = some limit)
    (among : ∃ change ∈ changes.take limit, change.IsSoundNode) :
    (session.drainChanges.2.recordMerged (changes.map EntryChange.record)).drainChanges.1 =
      true := by
  have emptied : session.drainChanges.2.queue.pending.getLast? = none := by
    rw [queue_drainChanges]
    rfl
  obtain ⟨change, member, isSoundNode⟩ := among
  have taken := List.mem_map_of_mem (f := EntryChange.record) member
  rw [List.map_take] at taken
  rw [recordMerged, emptied, drainChanges_recordAll_fst _ limited, List.any_eq_true]
  refine ⟨change.record, ?_, change.isPcmNodeChange_record_iff.mpr isSoundNode⟩
  rcases QueuedRecord.mem_take_merge none _ taken with kept | before
  · exact kept
  · cases before

end WatchSession

namespace Pipeline

theorem advanceSteps_add (pipeline : Pipeline) (first second : Nat) :
    (pipeline.advanceSteps first).advanceSteps second = pipeline.advanceSteps (first + second) := by
  induction first generalizing pipeline with
  | zero => simp [advanceSteps]
  | succ first ih =>
    rw [Nat.succ_add]
    cases steps : pipeline.step? with
    | some after => simp only [advanceSteps, steps, ih]
    | none =>
      simp only [advanceSteps, steps]
      cases second <;> simp [advanceSteps, steps]

/-- A watcher that reads change records does a whole drain before it does anything else. -/
theorem exists_advanceSteps_drained {pipeline : Pipeline} {wakeups rescan : Bool}
    (stands : pipeline.point = .readingChanges wakeups rescan) :
    ∃ bound, pipeline.advanceSteps bound =
      { pipeline with
        session := pipeline.session.drainChanges.2
        point := .readingChanges wakeups (rescan || pipeline.session.drainChanges.1) } := by
  induction length : pipeline.session.queue.pending.length using Nat.strongRecOn
    generalizing pipeline rescan with
  | ind length ih =>
    rw [WatchSession.drainChanges_eq]
    cases read : pipeline.session.queue.read? with
    | none =>
      refine ⟨0, ?_⟩
      simp [advanceSteps, RecordQueue.readAll_of_none read, ← stands]
    | some taken =>
      obtain ⟨buffer, queue⟩ := taken
      let after : Pipeline :=
        { pipeline with
          session := { pipeline.session with queue }
          point := .readingChanges wakeups (rescan || hasPcmNodeChange buffer) }
      have steps : pipeline.step? = some after := by simp only [step?, stands, read, after]
      have shorter := RecordQueue.length_lt_of_read? read
      obtain ⟨bound, drained⟩ := @ih queue.pending.length (by omega) after _ rfl rfl
      refine ⟨bound + 1, ?_⟩
      simp only [advanceSteps, steps, drained, WatchSession.drainChanges_eq,
        RecordQueue.readAll_of_some read, List.any_cons, Bool.or_assoc, after]

/-- Left to itself, the watcher begins one more sweep. -/
def SweepsAlone (pipeline : Pipeline) : Prop :=
  ∃ bound, (pipeline.advanceSteps bound).sweeps = pipeline.sweeps + 1

theorem SweepsAlone.of_advanceSteps {pipeline : Pipeline} (count : Nat)
    (same : (pipeline.advanceSteps count).sweeps = pipeline.sweeps)
    (sweeps : (pipeline.advanceSteps count).SweepsAlone) : pipeline.SweepsAlone := by
  obtain ⟨bound, begins⟩ := sweeps
  refine ⟨count + bound, ?_⟩
  rw [← advanceSteps_add, begins, same]

/-- A watcher that was roused looks at the state, and goes on. -/
theorem advanceSteps_of_roused {pipeline : Pipeline} {changes wakeups : Bool}
    (running : pipeline.state = .running) (stands : pipeline.point = .roused changes wakeups) :
    pipeline.advanceSteps 1 = pipeline.goTo (afterRoused false changes wakeups) := by
  have unasked : pipeline.stopRequested = false := by simp [stopRequested, running]
  simp only [advanceSteps, step?, stands, unasked]

/-- A watcher that reads change records sweeps if the drain tells it of a sound device node. -/
theorem sweepsAlone_of_readingChanges {pipeline : Pipeline} {wakeups rescan : Bool}
    (running : pipeline.state = .running) (stands : pipeline.point = .readingChanges wakeups rescan)
    (told : pipeline.session.drainChanges.1 = true) : pipeline.SweepsAlone := by
  obtain ⟨drain, drained⟩ := exists_advanceSteps_drained stands
  refine .of_advanceSteps drain (by rw [drained]) ?_
  rw [drained, told, Bool.or_true]
  exact exists_advanceSteps_of_isCommitted running rfl

/-- So does one that was roused, by the changes or by wake bytes, and has still to look at the
state. -/
theorem sweepsAlone_of_roused {pipeline : Pipeline} {changes wakeups : Bool}
    (running : pipeline.state = .running) (stands : pipeline.point = .roused changes wakeups)
    (source : (changes || wakeups) = true) (told : pipeline.session.drainChanges.1 = true) :
    pipeline.SweepsAlone := by
  have looks := advanceSteps_of_roused running stands
  refine .of_advanceSteps 1 (by rw [looks]; rfl) ?_
  rw [looks]
  cases changes with
  | true => exact sweepsAlone_of_readingChanges running rfl told
  | false =>
    obtain rfl : wakeups = true := source
    exact exists_advanceSteps_of_isCommitted running rfl

/-- So does one that waits, since there is something to read. -/
theorem sweepsAlone_of_polling {pipeline : Pipeline} (running : pipeline.state = .running)
    (polls : pipeline.point = .polling) (told : pipeline.session.drainChanges.1 = true) :
    pipeline.SweepsAlone := by
  have waits : pipeline.session.queue.pending.isEmpty = false := by
    cases pending : pipeline.session.queue.pending with
    | nil => simp [WatchSession.drainChanges_fst, pending] at told
    | cons first rest => rfl
  have rouses : pipeline.advanceSteps 1 =
      pipeline.goTo (.roused true pipeline.session.pipe.isReadable) := by
    simp [advanceSteps, step?, polls, waits]
  refine .of_advanceSteps 1 (by rw [rouses]; rfl) ?_
  rw [rouses]
  exact sweepsAlone_of_roused running rfl rfl told

/-- The watcher stands in a round of its loop in which it has not begun a sweep. -/
def inRound (pipeline : Pipeline) : Prop :=
  match pipeline.point with
  | .polling | .roused _ _ | .readingChanges _ _ | .readingWakeups | .woken | .due => True
  | .sweeping | .leaving | .done | .aborted _ => False

/-- Left to itself, a watcher that is not stopped sweeps if a drain would tell it of a sound device
node, wherever it stands in its round. -/
theorem sweepsAlone_of_drainChanges {pipeline : Pipeline} (running : pipeline.state = .running)
    (round : pipeline.inRound) (told : pipeline.session.drainChanges.1 = true) :
    pipeline.SweepsAlone := by
  unfold inRound at round
  cases stands : pipeline.point with
  | polling => exact sweepsAlone_of_polling running stands told
  | roused changes wakeups =>
    by_cases source : (changes || wakeups) = true
    · exact sweepsAlone_of_roused running stands source told
    · -- roused by nothing, it waits again
      have looks := advanceSteps_of_roused running stands
      obtain ⟨rfl, rfl⟩ : changes = false ∧ wakeups = false := by simpa using source
      refine .of_advanceSteps 1 (by rw [looks]; rfl) ?_
      rw [looks]
      exact sweepsAlone_of_polling running rfl told
  | readingChanges wakeups rescan => exact sweepsAlone_of_readingChanges running stands told
  | readingWakeups | woken | due =>
    exact exists_advanceSteps_of_isCommitted running (by rw [stands]; rfl)
  | _ => simp [stands] at round

/-- Some entries are made or removed after all records have been read. -/
def recordAfterDrain (pipeline : Pipeline) (changes : List EntryChange) : Pipeline :=
  { pipeline with session := pipeline.session.drainChanges.2 }.recordAll
    (changes.map EntryChange.record)

def mergeAfterDrain (pipeline : Pipeline) (changes : List EntryChange) : Pipeline :=
  { pipeline with session := pipeline.session.drainChanges.2 }.recordMerged
    (changes.map EntryChange.record)

/-- Whatever happens in a directory between two drains, with a record of its own for each change,
the second drain tells of a sound device node exactly if one came or went among the changes up to
the limit of the queue, wherever it stands there and however many others are lost. Such a change is
told as well where one like the last is not recorded again. A watcher that is not stopped then
sweeps again: by itself, or once the sweep that it is in has ended. -/
theorem changes_up_to_limit_are_told {pipeline : Pipeline} {limit : Nat}
    (changes : List EntryChange) (limited : pipeline.session.queue.limit = some limit) :
    ((pipeline.recordAfterDrain changes).session.drainChanges.1 = true ↔
      ∃ change ∈ changes.take limit, change.IsSoundNode) ∧
    ((∃ change ∈ changes.take limit, change.IsSoundNode) →
      (pipeline.mergeAfterDrain changes).session.drainChanges.1 = true ∧
      (pipeline.state = .running →
        ∀ later ∈ [pipeline.recordAfterDrain changes, pipeline.mergeAfterDrain changes],
          (pipeline.inRound → later.SweepsAlone) ∧
          ∀ snapshot, (later.endSweep (.ok snapshot)).SweepsAlone)) := by
  have drain := WatchSession.drainChanges_recordAll_iff changes limited
  refine ⟨drain, ?_⟩
  intro among
  have told := drain.mpr among
  have merged := WatchSession.drainChanges_recordMerged limited among
  refine ⟨merged, ?_⟩
  intro running
  rw [List.forall_mem_cons, List.forall_mem_singleton]
  refine ⟨⟨?_, ?_⟩, ?_, ?_⟩
  · intro round
    exact sweepsAlone_of_drainChanges running round told
  · intro snapshot
    exact sweepsAlone_of_polling running rfl told
  · intro round
    exact sweepsAlone_of_drainChanges running round merged
  · intro snapshot
    exact sweepsAlone_of_polling running rfl merged

/-- The third of three changes is lost, and the second is told. -/
theorem changes_up_to_limit_are_told_at_the_limit :
    let timer : EntryName := ⟨Text.encode "timer", by decide, by decide⟩
    let node : EntryName := ⟨Text.encode "pcmC0D0p", by decide, by decide⟩
    let pipeline : Pipeline :=
      { session := { queue := { limit := some 2 } } }
    let later := pipeline.recordAfterDrain
      [⟨false, .file, timer⟩, ⟨false, .file, node⟩, ⟨true, .file, timer⟩]
    later.session.drainChanges.1 = true ∧ later.SweepsAlone := by
  intro timer node pipeline later
  have limited : pipeline.session.queue.limit = some 2 := rfl
  obtain ⟨drain, sweeps⟩ := changes_up_to_limit_are_told
    [⟨false, .file, timer⟩, ⟨false, .file, node⟩, ⟨true, .file, timer⟩] limited
  have among : ∃ change ∈ ([⟨false, .file, timer⟩, ⟨false, .file, node⟩] : List EntryChange),
      change.IsSoundNode := by decide
  obtain ⟨-, again⟩ := sweeps among
  exact ⟨drain.mpr among, (again rfl later List.mem_cons_self).1 trivial⟩

/-- A sound device node that comes when the queue is full is told by no drain. -/
theorem changes_past_limit_are_not_told :
    ¬ ∀ (session : WatchSession) (limit : Nat) (changes : List EntryChange),
      1 ≤ limit → session.queue.limit = some limit → (∃ change ∈ changes, change.IsSoundNode) →
        (session.drainChanges.2.recordAll
          (changes.map EntryChange.record)).drainChanges.1 = true := by
  intro complete
  let timer : EntryName := ⟨Text.encode "timer", by decide, by decide⟩
  let node : EntryName := ⟨Text.encode "pcmC0D0p", by decide, by decide⟩
  have told := complete { queue := { limit := some 1 } } 1
    [⟨false, .file, timer⟩, ⟨false, .file, node⟩] (by decide) rfl (by decide)
  rw [WatchSession.drainChanges_recordAll_iff _ rfl] at told
  exact absurd told (by decide)

end Pipeline

end SoundDevices
