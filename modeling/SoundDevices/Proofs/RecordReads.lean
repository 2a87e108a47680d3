import SoundDevices.Watch.Session

set_option autoImplicit false

namespace SoundDevices

/-- Bits that do not meet are put together by addition. -/
theorem or_shiftLeft {low : Nat} (high amount : Nat) (small : low < 1 <<< amount) :
    low ||| high <<< amount = low + high <<< amount := by
  rw [Nat.one_shiftLeft] at small
  rw [Nat.or_comm, ← Nat.shiftLeft_add_eq_or_of_lt small, Nat.add_comm]

/-- The number that four bytes stand for. -/
theorem toNat_decodeWord (b0 b1 b2 b3 : UInt8) :
    (decodeWord b0 b1 b2 b3).toNat =
      b0.toNat + b1.toNat <<< 8 + b2.toNat <<< 16 + b3.toNat <<< 24 := by
  have h0 := b0.toNat_lt
  have h1 := b1.toNat_lt
  have h2 := b2.toNat_lt
  have h3 := b3.toNat_lt
  have one : b0.toNat < 1 <<< 8 := by omega
  have two : b0.toNat + b1.toNat <<< 8 < 1 <<< 16 := by omega
  have three : b0.toNat + b1.toNat <<< 8 + b2.toNat <<< 16 < 1 <<< 24 := by omega
  simp only [decodeWord, UInt32.toNat_or, UInt32.toNat_shiftLeft, UInt8.toNat_toUInt32,
    UInt32.reduceToNat, Nat.reduceMod]
  rw [Nat.mod_eq_of_lt (by omega : b1.toNat <<< 8 < 2 ^ 32),
    Nat.mod_eq_of_lt (by omega : b2.toNat <<< 16 < 2 ^ 32),
    Nat.mod_eq_of_lt (by omega : b3.toNat <<< 24 < 2 ^ 32),
    or_shiftLeft _ 8 one, or_shiftLeft _ 16 two, or_shiftLeft _ 24 three]

/-- Four bytes of a word, lowest first, make the word again. -/
theorem decodeWord_bytes (word : UInt32) :
    decodeWord word.toUInt8 (word >>> 8).toUInt8 (word >>> 16).toUInt8 (word >>> 24).toUInt8 =
      word := by
  have bound := word.toNat_lt
  apply UInt32.toNat_inj.mp
  simp only [toNat_decodeWord, UInt32.toNat_toUInt8, UInt32.toNat_shiftRight, UInt32.reduceToNat,
    Nat.reduceMod, Nat.shiftRight_eq_div_pow]
  omega

/-- A word of four bytes has these bytes. -/
theorem encodeWord_decodeWord (b0 b1 b2 b3 : UInt8) :
    encodeWord (decodeWord b0 b1 b2 b3) = [b0, b1, b2, b3] := by
  have h0 := b0.toNat_lt
  have h1 := b1.toNat_lt
  have h2 := b2.toNat_lt
  have h3 := b3.toNat_lt
  simp only [encodeWord, List.cons.injEq, and_true, ← UInt8.toNat_inj, UInt32.toNat_toUInt8,
    UInt32.toNat_shiftRight, toNat_decodeWord, UInt32.reduceToNat, Nat.reduceMod,
    Nat.shiftRight_eq_div_pow]
  omega

/-- Padding is what follows the first NUL, if the name itself has none. -/
theorem takeWhile_padded (name : Bytes) (more : Nat) (clean : name.contains 0 = false) :
    (name ++ List.replicate more 0).takeWhile (· != 0) = name := by
  have plain : ∀ byte ∈ name, (byte != 0) = true := by
    intro byte member
    rw [bne_iff_ne]
    rintro rfl
    rw [List.contains_iff_mem.mpr member] at clean
    exact Bool.noConfusion clean
  rw [List.takeWhile_append_of_pos plain]
  cases more <;> simp [List.replicate_succ]

def ChangeRecord.header (record : ChangeRecord) (length : UInt32) : Bytes :=
  encodeWord record.watch.toUInt32 ++ encodeWord record.mask ++ encodeWord record.cookie ++
    encodeWord length

theorem ChangeRecord.length_header (record : ChangeRecord) (length : UInt32) :
    (record.header length).length = headerSize := rfl

def ChangeRecord.paddedName (record : ChangeRecord) (length : UInt32) : Bytes :=
  record.name ++ List.replicate (length.toNat - record.name.length) 0

theorem ChangeRecord.length_paddedName (record : ChangeRecord) (length : UInt32)
    (fits : record.name.length ≤ length.toNat) :
    (record.paddedName length).length = length.toNat := by
  simp only [paddedName, List.length_append, List.length_replicate]
  omega

theorem ChangeRecord.encode_eq (record : ChangeRecord) (length : UInt32) :
    record.encode length = record.header length ++ record.paddedName length := by
  simp only [encode, header, paddedName, List.append_assoc]

/-- A header is read back, and is followed by as many bytes as it tells, or the buffer is cut
off. -/
theorem recordHead_header (record : ChangeRecord) (length : UInt32) (body : Bytes) :
    recordHead (record.header length ++ body) =
      if length.toNat ≤ body.length then
        .record { record with name := (body.take length.toNat).takeWhile (· != 0) }
          (body.drop length.toNat)
      else .cutOff := by
  simp only [ChangeRecord.header, encodeWord, List.cons_append, List.nil_append, recordHead,
    decodeWord_bytes, Int32.toInt32_toUInt32]

/-- The head of a buffer that begins with a written record is that record. -/
theorem recordHead_encode (record : ChangeRecord) (length : UInt32) (rest : Bytes)
    (clean : record.name.contains 0 = false) (fits : record.name.length ≤ length.toNat) :
    recordHead (record.encode length ++ rest) = .record record rest := by
  have padded := record.length_paddedName length fits
  rw [record.encode_eq, List.append_assoc, recordHead_header,
    if_pos (by rw [List.length_append, padded]; omega), List.take_left' padded,
    List.drop_left' padded, ChangeRecord.paddedName, takeWhile_padded record.name _ clean]

theorem RecordCursor.next_encode (record : ChangeRecord) (length : UInt32) (rest : Bytes)
    (clean : record.name.contains 0 = false) (fits : record.name.length ≤ length.toNat) :
    (start (record.encode length ++ rest)).next = (some record, start rest) := by
  simp only [start, next, Bool.false_eq_true, ↓reduceIte,
    recordHead_encode record length rest clean fits]

namespace QueuedRecord

theorem contains_name (queued : QueuedRecord) : queued.record.name.contains 0 = false := by
  cases queued with
  | change mask name => exact name.noNul
  | overflow => rfl

theorem length_name_le (queued : QueuedRecord) : queued.record.name.length ≤ 255 := by
  cases queued with
  | change mask name => exact name.length_le
  | overflow => exact Nat.zero_le _

/-- The header tells the length to which the name is padded. -/
theorem toNat_paddedLength (queued : QueuedRecord) :
    (UInt32.ofNat (paddedLength queued.record.name.length)).toNat =
      paddedLength queued.record.name.length := by
  have short := length_name_le queued
  have bound : paddedLength queued.record.name.length < 2 ^ 32 := by
    unfold paddedLength
    split <;> omega
  exact UInt32.toNat_ofNat_of_lt' bound

theorem next_encode (queued : QueuedRecord) (rest : Bytes) :
    (RecordCursor.start (queued.encode ++ rest)).next =
      (some queued.record, RecordCursor.start rest) := by
  refine RecordCursor.next_encode queued.record _ rest (contains_name queued) ?_
  rw [toNat_paddedLength]
  exact le_paddedLength _

/-- A buffer of written records tells of a sound device node if one of the records does. -/
theorem hasPcmNodeChange_encode (records : List QueuedRecord) :
    hasPcmNodeChange (records.flatMap encode) = records.any isPcmNodeChange := by
  unfold hasPcmNodeChange
  induction records with
  | nil =>
    have ended : (RecordCursor.start []).next.1 = none := rfl
    rw [List.flatMap_nil, RecordCursor.anyPcmNodeChange_of_none ended]
    rfl
  | cons first rest ih =>
    have next := next_encode first (rest.flatMap encode)
    have read := congrArg Prod.fst next
    rw [List.flatMap_cons, RecordCursor.anyPcmNodeChange_of_some read, next, List.any_cons]
    cases told : first.record.isPcmNodeChange with
    | true => simp [isPcmNodeChange, told]
    | false => simpa [isPcmNodeChange, told] using ih

end QueuedRecord

namespace RecordQueue

/-- The records that the next read hands over; none if nothing waits. -/
def nextRead (queue : RecordQueue) : List QueuedRecord :=
  match queue.pending with
  | [] => []
  | first :: rest => first :: rest.take (fitting (bufferSize - first.size) rest)

theorem read?_eq_none_iff (queue : RecordQueue) : queue.read? = none ↔ queue.pending = [] := by
  unfold read?
  split <;> simp_all

/-- A read hands over some of the records that wait, and leaves the rest. -/
theorem pending_of_read? {queue after : RecordQueue} {buffer : Bytes}
    (read : queue.read? = some (buffer, after)) :
    buffer = queue.nextRead.flatMap QueuedRecord.encode ∧
      queue.pending = queue.nextRead ++ after.pending ∧ after.limit = queue.limit := by
  unfold read? at read
  unfold nextRead
  split at read
  · simp at read
  · next first rest pending =>
    simp only [Option.some.injEq, Prod.mk.injEq] at read
    obtain ⟨rfl, rfl⟩ := read
    rw [pending]
    refine ⟨?_, ?_, rfl⟩
    · rw [List.flatMap_cons]
    · rw [List.cons_append, List.take_append_drop]

/-- A read tells of a sound device node if one of the records it hands over does. -/
theorem hasPcmNodeChange_of_read? {queue after : RecordQueue} {buffer : Bytes}
    (read : queue.read? = some (buffer, after)) :
    hasPcmNodeChange buffer = queue.nextRead.any QueuedRecord.isPcmNodeChange := by
  rw [(pending_of_read? read).1, QueuedRecord.hasPcmNodeChange_encode]

theorem ne_nil_of_read? {queue after : RecordQueue} {buffer : Bytes}
    (read : queue.read? = some (buffer, after)) : buffer ≠ [] := by
  intro empty
  have pending := (pending_of_read? read).2.1
  have encoded := (pending_of_read? read).1
  cases handed : queue.nextRead with
  | nil =>
    have shorter := length_lt_of_read? read
    rw [handed, List.nil_append] at pending
    rw [pending] at shorter
    omega
  | cons first rest =>
    have length := congrArg List.length encoded
    rw [empty, handed, List.flatMap_cons, QueuedRecord.encode, ChangeRecord.encode_eq] at length
    simp only [List.length_nil, List.length_append, ChangeRecord.length_header,
      ChangeRecord.headerSize] at length
    omega

theorem ne_nil_of_mem_readAll (queue : RecordQueue) : ∀ read ∈ queue.readAll.1, read ≠ [] := by
  induction length : queue.pending.length using Nat.strongRecOn generalizing queue with
  | ind length ih =>
    cases read : queue.read? with
    | none =>
      rw [readAll_of_none read]
      exact nofun
    | some taken =>
      obtain ⟨buffer, after⟩ := taken
      rw [readAll_of_some read, List.forall_mem_cons]
      exact ⟨ne_nil_of_read? read, ih _ (length ▸ length_lt_of_read? read) after rfl⟩

/-- However the records are spread over the reads, one of the reads tells of a sound device node if
one of the records does. -/
theorem any_readAll (queue : RecordQueue) :
    queue.readAll.1.any hasPcmNodeChange = queue.pending.any QueuedRecord.isPcmNodeChange := by
  induction length : queue.pending.length using Nat.strongRecOn generalizing queue with
  | ind length ih =>
    cases read : queue.read? with
    | none =>
      rw [readAll_of_none read, (read?_eq_none_iff queue).mp read]
      rfl
    | some taken =>
      obtain ⟨buffer, after⟩ := taken
      have rest := ih _ (length ▸ length_lt_of_read? read) after rfl
      rw [readAll_of_some read, (pending_of_read? read).2.1, List.any_append, ← rest,
        ← hasPcmNodeChange_of_read? read]
      rfl

/-- Nothing is left once all is read. -/
theorem readAll_snd (queue : RecordQueue) : queue.readAll.2 = { queue with pending := [] } := by
  induction length : queue.pending.length using Nat.strongRecOn generalizing queue with
  | ind length ih =>
    cases read : queue.read? with
    | none =>
      rw [readAll_of_none read, ← (read?_eq_none_iff queue).mp read]
    | some taken =>
      obtain ⟨buffer, after⟩ := taken
      rw [readAll_of_some read, ih _ (length ▸ length_lt_of_read? read) after rfl,
        (pending_of_read? read).2.2]

end RecordQueue

namespace WatchSession

/-- The drain of a queue comes to its end when all is read. -/
theorem drainChanges_exhausting (session : WatchSession) :
    SoundDevices.drainChanges (exhausting session.queue.readAll.1) =
      some (session.queue.readAll.1.any hasPcmNodeChange, []) :=
  drain_exhausting hasPcmNodeChange false _ session.queue.ne_nil_of_mem_readAll

theorem drainChanges_eq (session : WatchSession) :
    session.drainChanges =
      (session.queue.readAll.1.any hasPcmNodeChange,
        { session with queue := session.queue.readAll.2 }) := by
  simp only [drainChanges, drainChanges_exhausting]
  rfl

theorem drainChanges_fst (session : WatchSession) :
    session.drainChanges.1 = session.queue.pending.any QueuedRecord.isPcmNodeChange := by
  rw [drainChanges_eq, RecordQueue.any_readAll]

/-- A drain leaves no records, and changes nothing else about the queue. -/
theorem queue_drainChanges (session : WatchSession) :
    session.drainChanges.2.queue = { session.queue with pending := [] } := by
  rw [drainChanges_eq, RecordQueue.readAll_snd]

end WatchSession

end SoundDevices
