import SoundDevices.FileTree
import SoundDevices.Watch.Drain
import SoundDevices.Watch.RecordQueue

set_option autoImplicit false

namespace SoundDevices

/-- A pipe by how many bytes wait in it. A full one takes no more, which is no loss, since it wakes
the watcher already. -/
structure WakePipe where
  pending : Nat := 0
  deriving DecidableEq, Repr, Inhabited

namespace WakePipe

/-- A pipe holds no more bytes than this. -/
def capacity : Nat := 65536

def wakeByte : UInt8 := 0x61

def write (pipe : WakePipe) : WakePipe :=
  if pipe.pending < capacity then ⟨pipe.pending + 1⟩ else pipe

theorem pending_write_pos (pipe : WakePipe) : 0 < pipe.write.pending := by
  unfold write
  split
  · exact Nat.succ_pos _
  · next full => exact Nat.lt_of_lt_of_le (by decide) (Nat.le_of_not_lt full)

def isReadable (pipe : WakePipe) : Bool := 0 < pipe.pending

/-- One read of up to a buffer of bytes; none from an empty pipe. -/
def read? (pipe : WakePipe) : Option WakePipe :=
  if pipe.pending = 0 then none else some ⟨pipe.pending - RecordQueue.bufferSize⟩

theorem pending_lt_of_read? {pipe after : WakePipe} (read : pipe.read? = some after) :
    after.pending < pipe.pending := by
  unfold read? at read
  split at read
  · cases read
  · next some =>
    obtain rfl := Option.some.inj read
    exact Nat.sub_lt (Nat.pos_of_ne_zero some) (by decide)

/-- All reads until the pipe is empty, and the pipe then. -/
def readAll (pipe : WakePipe) : List Bytes × WakePipe :=
  match _read : pipe.read? with
  | none => ([], pipe)
  | some after =>
    let more := readAll after
    (List.replicate (pipe.pending - after.pending) wakeByte :: more.1, more.2)
termination_by pipe.pending
decreasing_by exact pending_lt_of_read? _read

theorem readAll_of_some {pipe after : WakePipe} (read : pipe.read? = some after) :
    pipe.readAll =
      (List.replicate (pipe.pending - after.pending) wakeByte :: after.readAll.1,
        after.readAll.2) := by
  rw [readAll]
  split
  · next drained => simp [drained] at read
  · next other same =>
    obtain rfl := Option.some.inj (read.symm.trans same)
    rfl

theorem readAll_zero : readAll ⟨0⟩ = ([], ⟨0⟩) := by
  rw [readAll]
  rfl

/-- No read of a pipe that has something to read is empty, and they leave nothing. -/
theorem readAll_spec (pipe : WakePipe) :
    (∀ read ∈ pipe.readAll.1, read ≠ []) ∧ pipe.readAll.1.isEmpty = !pipe.isReadable ∧
      pipe.readAll.2 = ⟨0⟩ := by
  induction count : pipe.pending using Nat.strongRecOn generalizing pipe with
  | ind count ih =>
    cases read : pipe.read? with
    | none =>
      unfold read? at read
      split at read
      · next empty =>
        obtain ⟨pending⟩ := pipe
        obtain rfl : pending = 0 := empty
        rw [readAll_zero]
        exact ⟨nofun, rfl, rfl⟩
      · cases read
    | some after =>
      have fewer := pending_lt_of_read? read
      obtain ⟨nonempty, -, emptied⟩ := ih after.pending (count ▸ fewer) after rfl
      rw [readAll_of_some read]
      refine ⟨?_, ?_, emptied⟩
      · rw [List.forall_mem_cons]
        refine ⟨?_, nonempty⟩
        rw [ne_eq, List.replicate_eq_nil_iff]
        omega
      · have readable : pipe.isReadable = true := decide_eq_true (by omega)
        rw [readable]
        rfl

end WakePipe

/-- The two sources that rouse a watcher. -/
structure WatchSession where
  queue : RecordQueue := {}
  pipe : WakePipe := {}
  deriving DecidableEq, Repr, Inhabited

namespace WatchSession

def wake (session : WatchSession) : WatchSession :=
  { session with pipe := session.pipe.write }

def record (session : WatchSession) (queued : QueuedRecord) : WatchSession :=
  { session with queue := session.queue.push queued }

def recordAll (session : WatchSession) (queued : List QueuedRecord) : WatchSession :=
  { session with queue := session.queue.pushAll queued }

/-- Some changes of the directory are recorded. One like the last that nobody has read is not
recorded again. -/
def recordMerged (session : WatchSession) (queued : List QueuedRecord) : WatchSession :=
  session.recordAll (QueuedRecord.merge session.queue.pending.getLast? queued)

/-- Reads all records; tells whether one of them was about a sound device node. -/
def drainChanges (session : WatchSession) : Bool × WatchSession :=
  let reads := session.queue.readAll
  let drained := SoundDevices.drainChanges (exhausting reads.1)
  (drained.elim false Prod.fst, { session with queue := reads.2 })

/-- Reads all wake bytes; tells whether there were any. -/
def drainWakeups (session : WatchSession) : Bool × WatchSession :=
  let reads := session.pipe.readAll
  let drained := SoundDevices.drainWakeups (exhausting reads.1)
  (drained.elim false Prod.fst, { session with pipe := reads.2 })

theorem drainWakeups_eq (session : WatchSession) :
    session.drainWakeups = (session.pipe.isReadable, { session with pipe := ⟨0⟩ }) := by
  obtain ⟨nonempty, isEmpty, emptied⟩ := session.pipe.readAll_spec
  have any : session.pipe.readAll.1.any (fun _ => true) = session.pipe.isReadable := by
    rw [← Bool.not_inj_iff, ← isEmpty]
    cases session.pipe.readAll.1 <;> rfl
  simp only [drainWakeups, SoundDevices.drainWakeups, drain_exhausting _ _ _ nonempty, any, emptied,
    Bool.false_or, Option.elim_some]

def nulInWatchPath : OsError := .custom "data provided contains a nul byte"

/-- How many records the kernel keeps for one session. -/
def kernelLimit : Nat := 16384

/-- Starts to watch a path. `shown` is how a message names the path. -/
def watch (disk : Disk) (shown path : String) : Except Error WatchSession :=
  if path.toList.contains '\x00' then .error (.ofOs ("watch " ++ shown) nulInWatchPath)
  else match disk.watch path with
    | .error failure => .error (.ofOs ("watch " ++ shown) failure)
    | .ok () => .ok { queue := { limit := some kernelLimit } }

end WatchSession

end SoundDevices
