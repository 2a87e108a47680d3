import SoundDevices.Watch.ChangeRecord

set_option autoImplicit false

namespace SoundDevices

/-- The name of an entry of a directory, as a file system takes it. -/
structure EntryName where
  bytes : Bytes
  length_le : bytes.length ≤ 255
  noNul : bytes.contains 0 = false
  deriving DecidableEq, Repr

namespace EntryName

/-- The name that a text is. The empty text, the two names every directory has, and texts with a
slash, a NUL or more than 255 bytes are none. -/
def ofString? (text : String) : Option EntryName :=
  let bytes := Text.encode text
  if text.toList.contains '/' || text == "" || text == "." || text == ".." then none
  else if short : bytes.length ≤ 255 then
    if clean : bytes.contains 0 = false then some ⟨bytes, short, clean⟩ else none
  else none

end EntryName

/-- A record in the queue: a change of an entry, or the loss of some. -/
inductive QueuedRecord where
  | change (mask : UInt32) (name : EntryName)
  | overflow
  deriving DecidableEq, Repr

namespace QueuedRecord

/-- The record that a reader finds. Changes have the number of the only watch. -/
def record : QueuedRecord → ChangeRecord
  | change mask name => ⟨1, mask, 0, name.bytes⟩
  | overflow => ⟨-1, maskOverflow, 0, []⟩

/-- The length to which the kernel pads a name: a multiple of the header's that has room for one
NUL or more. -/
def paddedLength (length : Nat) : Nat :=
  if length = 0 then 0 else (length / 16 + 1) * 16

theorem le_paddedLength (length : Nat) : length ≤ paddedLength length := by
  unfold paddedLength
  split <;> omega

def encode (queued : QueuedRecord) : Bytes :=
  queued.record.encode (UInt32.ofNat (paddedLength queued.record.name.length))

def size (queued : QueuedRecord) : Nat :=
  ChangeRecord.headerSize + paddedLength queued.record.name.length

def isPcmNodeChange (queued : QueuedRecord) : Bool := queued.record.isPcmNodeChange

/-- The records without those that are like the record before them. -/
def merge : Option QueuedRecord → List QueuedRecord → List QueuedRecord
  | _, [] => []
  | last, queued :: rest =>
    if last = some queued then merge last rest else queued :: merge (some queued) rest

/-- A record among the first is among the first that are left, or like the one before them all. -/
theorem mem_take_merge (last : Option QueuedRecord) (records : List QueuedRecord) {count : Nat}
    {queued : QueuedRecord} (member : queued ∈ records.take count) :
    queued ∈ (merge last records).take count ∨ last = some queued := by
  induction records generalizing last count with
  | nil =>
    rw [List.take_nil] at member
    exact nomatch member
  | cons first rest ih =>
    cases count with
    | zero => exact nomatch member
    | succ count =>
      rw [List.take_succ_cons, List.mem_cons] at member
      by_cases repeated : last = some first
      · rw [merge, if_pos repeated]
        rcases member with rfl | later
        · exact Or.inr repeated
        · apply ih
          exact (List.take_prefix_take_left (Nat.le_succ count)).subset later
      · rw [merge, if_neg repeated, List.take_succ_cons, List.mem_cons]
        rcases member with rfl | later
        · exact Or.inl (Or.inl rfl)
        · rcases ih (some first) later with kept | same
          · exact Or.inl (Or.inr kept)
          · exact Or.inl (Or.inl (Option.some.inj same).symm)

end QueuedRecord

/-- The records that nobody has read, oldest first. Records past the limit are lost, and one
overflow record stands for them until it is read. -/
structure RecordQueue where
  pending : List QueuedRecord := []
  limit : Option Nat := none
  deriving DecidableEq, Repr, Inhabited

namespace RecordQueue

def isFull (queue : RecordQueue) : Bool :=
  match queue.limit with
  | none => false
  | some limit => limit ≤ queue.pending.length

/-- Adds a record. A full queue notes the loss instead, once. -/
def push (queue : RecordQueue) (queued : QueuedRecord) : RecordQueue :=
  if !queue.isFull then { queue with pending := queue.pending ++ [queued] }
  else if queue.pending.contains .overflow then queue
  else { queue with pending := queue.pending ++ [.overflow] }

theorem push_of_not_isFull (queue : RecordQueue) (queued : QueuedRecord)
    (room : queue.isFull = false) :
    queue.push queued = { queue with pending := queue.pending ++ [queued] } := by
  simp [push, room]

/-- How many of some records a queue takes before it is full. -/
def room (queue : RecordQueue) (wanted : Nat) : Nat :=
  match queue.limit with
  | none => wanted
  | some limit => limit - queue.pending.length

/-- Adds records one after the other. Of those past the limit the first notes the loss. -/
def pushAll (queue : RecordQueue) (records : List QueuedRecord) : RecordQueue :=
  let room := queue.room records.length
  let taken := { queue with pending := queue.pending ++ records.take room }
  match records.drop room with
  | [] => taken
  | lost :: _ => taken.push lost

theorem push_push_of_isFull (queue : RecordQueue) (first second : QueuedRecord)
    (full : queue.isFull = true) : (queue.push first).push second = queue.push first := by
  cases limited : queue.limit with
  | none => simp [isFull, limited] at full
  | some limit =>
    have past : limit ≤ queue.pending.length := by simpa [isFull, limited] using full
    by_cases noted : QueuedRecord.overflow ∈ queue.pending
    · simp [push, full, noted]
    · have still : limit ≤ queue.pending.length + 1 := by omega
      simp [push, isFull, limited, past, noted, still]

theorem foldl_push_of_isFull (queue : RecordQueue) (first : QueuedRecord)
    (records : List QueuedRecord) (full : queue.isFull = true) :
    records.foldl push (queue.push first) = queue.push first := by
  induction records with
  | nil => rfl
  | cons second records ih => rw [List.foldl_cons, push_push_of_isFull _ _ _ full, ih]

theorem foldl_push_of_length_le (queue : RecordQueue) (records : List QueuedRecord)
    (fits : ∀ limit, queue.limit = some limit →
      queue.pending.length + records.length ≤ limit) :
    records.foldl push queue = { queue with pending := queue.pending ++ records } := by
  induction records generalizing queue with
  | nil => simp
  | cons first records ih =>
    have free : queue.isFull = false := by
      cases limited : queue.limit with
      | none => simp [isFull, limited]
      | some limit =>
        have bound := fits limit limited
        simp only [List.length_cons] at bound
        simp only [isFull, limited, decide_eq_false_iff_not]
        omega
    rw [List.foldl_cons, push_of_not_isFull queue first free, ih]
    · simp
    · intro limit limited
      have bound := fits limit limited
      simp only [List.length_cons, List.length_append, List.length_nil] at bound ⊢
      omega

/-- Adding records all at once is adding them one by one. -/
theorem pushAll_eq_foldl (queue : RecordQueue) (records : List QueuedRecord) :
    queue.pushAll records = records.foldl push queue := by
  unfold pushAll
  cases limited : queue.limit with
  | none =>
    rw [foldl_push_of_length_le queue records (by simp [limited])]
    simp [room, limited]
  | some limit =>
    have roomLeft : queue.room records.length = limit - queue.pending.length := by
      simp [room, limited]
    generalize queue.room records.length = room at roomLeft
    have taken : (records.take room).foldl push queue =
        { queue with pending := queue.pending ++ records.take room } := by
      by_cases past : limit ≤ queue.pending.length
      · have noRoom : room = 0 := by omega
        simp [noRoom]
      · refine foldl_push_of_length_le queue _ ?_
        intro other same
        rw [limited, Option.some.injEq] at same
        subst same
        have bound := List.length_take_le room records
        omega
    -- what the queue has room for comes first, and only the first record after it makes a change
    conv => rhs; rw [← List.take_append_drop room records, List.foldl_append, taken]
    simp only [limited]
    cases left : records.drop room with
    | nil => rfl
    | cons lost more =>
      refine (foldl_push_of_isFull _ lost more ?_).symm
      have long : room < records.length := by
        have some_left := congrArg List.length left
        simp only [List.length_drop, List.length_cons] at some_left
        omega
      simp only [isFull, List.length_append, List.length_take, decide_eq_true_eq]
      omega

/-- How many of the records fit into `room` bytes. -/
def fitting (room : Nat) : List QueuedRecord → Nat
  | [] => 0
  | queued :: rest =>
    if queued.size ≤ room then fitting (room - queued.size) rest + 1 else 0

/-- How many bytes one read takes at most. -/
def bufferSize : Nat := 4096

/-- One read: the bytes of the records that fit into a buffer, and the queue without them. The
buffer has room for any one record. Nothing is read from an empty queue. -/
def read? (queue : RecordQueue) : Option (Bytes × RecordQueue) :=
  match queue.pending with
  | [] => none
  | first :: rest =>
    let more := fitting (bufferSize - first.size) rest
    some (first.encode ++ (rest.take more).flatMap QueuedRecord.encode,
      { queue with pending := rest.drop more })

@[simp] theorem read?_nil (limit : Option Nat) : read? ⟨[], limit⟩ = none := rfl

theorem length_lt_of_read? {queue after : RecordQueue} {buffer : Bytes}
    (read : queue.read? = some (buffer, after)) :
    after.pending.length < queue.pending.length := by
  unfold read? at read
  split at read
  · simp at read
  · next first rest pending =>
    simp only [Option.some.injEq, Prod.mk.injEq] at read
    obtain ⟨-, rfl⟩ := read
    simp only [pending, List.length_drop, List.length_cons]
    omega

/-- All reads until the queue is empty, and the queue then. -/
def readAll (queue : RecordQueue) : List Bytes × RecordQueue :=
  match _read : queue.read? with
  | none => ([], queue)
  | some (buffer, after) =>
    let more := readAll after
    (buffer :: more.1, more.2)
termination_by queue.pending.length
decreasing_by exact length_lt_of_read? _read

theorem readAll_of_none {queue : RecordQueue} (drained : queue.read? = none) :
    queue.readAll = ([], queue) := by
  rw [readAll]
  split
  · rfl
  · next buffer after read => simp [drained] at read

theorem readAll_of_some {queue after : RecordQueue} {buffer : Bytes}
    (read : queue.read? = some (buffer, after)) :
    queue.readAll = (buffer :: after.readAll.1, after.readAll.2) := by
  rw [readAll]
  split
  · next drained => simp [drained] at read
  · next other next same =>
    rw [read, Option.some.injEq, Prod.mk.injEq] at same
    rw [same.1, same.2]

end RecordQueue

end SoundDevices
