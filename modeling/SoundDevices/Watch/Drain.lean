import SoundDevices.Error
import SoundDevices.Watch.ChangeRecord

set_option autoImplicit false

namespace SoundDevices

/-- What an attempt to read comes to: the bytes that were there, or why there were none. -/
abbrev ReadOutcome := Except OsError Bytes

/-- Reads on and on, and tells whether `tells` held of the bytes of some read. A read that was
interrupted is made again. The drain ends with a read that yields no bytes, finds none for the
moment or fails, and what could be read after it is left; without such a read it has not ended. -/
def drain (tells : Bytes → Bool) (told : Bool) :
    List ReadOutcome → Option (Bool × List ReadOutcome)
  | [] => none
  | .ok [] :: rest => some (told, rest)
  | .ok (b :: more) :: rest => drain tells (told || tells (b :: more)) rest
  | .error failure :: rest =>
    if failure = .interrupted then drain tells told rest else some (told, rest)

/-- Drains change records; tells whether one of them was about a sound device node. -/
def drainChanges : List ReadOutcome → Option (Bool × List ReadOutcome) :=
  drain hasPcmNodeChange false

def drainWakeups : List ReadOutcome → Option (Bool × List ReadOutcome) :=
  drain (fun _ => true) false

/-- The outcomes of reading until there is nothing more for the moment. -/
def exhausting (reads : List Bytes) : List ReadOutcome :=
  reads.map .ok ++ [.error .wouldBlock]

theorem drain_of_ne_nil (tells : Bytes → Bool) (told : Bool) {read : Bytes} (nonempty : read ≠ [])
    (rest : List ReadOutcome) :
    drain tells told (.ok read :: rest) = drain tells (told || tells read) rest := by
  cases read with
  | nil => exact absurd rfl nonempty
  | cons b more => rfl

theorem drain_interrupted (tells : Bytes → Bool) (told : Bool) (rest : List ReadOutcome) :
    drain tells told (.error .interrupted :: rest) = drain tells told rest := if_pos rfl

/-- A drain of what there is comes to its end, and tells of each read. -/
theorem drain_exhausting (tells : Bytes → Bool) (told : Bool) (reads : List Bytes)
    (nonempty : ∀ read ∈ reads, read ≠ []) :
    drain tells told (exhausting reads) = some (told || reads.any tells, []) := by
  induction reads generalizing told with
  | nil =>
    rw [List.any_nil, Bool.or_false]
    rfl
  | cons read reads ih =>
    have further := ih (told || tells read) fun later member =>
      nonempty later (List.mem_cons_of_mem read member)
    rw [List.any_cons, ← Bool.or_assoc, ← further]
    exact drain_of_ne_nil tells told (nonempty read List.mem_cons_self) (exhausting reads)

end SoundDevices
