import SoundDevices.Watch.Backend

set_option autoImplicit false

/- Runs of a reader among other threads. A reader is a monitor on a backend for which others publish
and signal. A monitor that cannot go on sleeps until it is notified, which a publication and a
signal do; it may also wake up for no reason, and then looks again. To find that it cannot go on
and to fall asleep is one step, since the lock is held in between.

`Monitor.Move` lists what the monitor's own step can be, once for all proofs about runs. -/
namespace SoundDevices

/-- Steps of one kind from a state to another, with what happened, oldest first. -/
inductive Trace {σ ε : Type} (step : σ → ε → σ → Prop) (first : σ) : List ε → σ → Prop
  | start : Trace step first [] first
  | step {events : List ε} {state after : σ} {event : ε}
      (trace : Trace step first events state) (next : step state event after) :
      Trace step first (events ++ [event]) after

theorem Trace.trans {σ ε : Type} {step : σ → ε → σ → Prop} {first middle last : σ}
    {before after : List ε} (early : Trace step first before middle)
    (late : Trace step middle after last) : Trace step first (before ++ after) last := by
  induction late with
  | start =>
    rw [List.append_nil]
    exact early
  | step _ next ih =>
    rw [← List.append_assoc]
    exact ih.step next

/-- The count comes back to the same number after `2 ^ 64` arrivals only. -/
theorem PublishedState.add_ofNat_eq_self_iff {count : UInt64} {n : Nat} (few : n < UInt64.size) :
    count + UInt64.ofNat n = count ↔ n = 0 := by
  rw [UInt64.add_eq_left]
  constructor
  · intro zero
    have value := congrArg UInt64.toNat zero
    rw [UInt64.toNat_ofNat', Nat.mod_eq_of_lt few] at value
    exact value
  · rintro rfl
    rfl

namespace Monitor

/-- What a step of the monitor's own can be, by where it stands. -/
inductive Move (awaitsDiscovery stop : Bool) (before : Monitor) (shared : SharedSnapshot) :
    Monitor → SharedSnapshot → Prop
  | look (seen : UInt64) (stands : before.point = .counted seen) :
      Move awaitsDiscovery stop before shared
        { before with point := if stop then .idle else .flushing (some seen) } shared
  | enter (rest : Option UInt64) (stands : before.point = .flushing rest)
      (free : awaitsDiscovery = true → shared.discovered = true) :
      Move awaitsDiscovery stop before shared { before with point := .taking rest } shared
  | takeNothing (rest : Option UInt64) (stands : before.point = .taking rest)
      (nothing : shared.ready = none) :
      Move awaitsDiscovery stop before shared
        { before with point := afterFlush rest } shared.take.2
  | takeSnapshot (rest : Option UInt64) (snapshot : Snapshot)
      (stands : before.point = .taking rest) (waits : shared.ready = some snapshot) :
      Move awaitsDiscovery stop before shared
        { before with current := some snapshot, point := .notifying rest } shared.take.2
  | callBack (rest : Option UInt64) (stands : before.point = .notifying rest) :
      Move awaitsDiscovery stop before shared
        { before with
          notified := before.notified ++ before.current.toList
          point := afterFlush rest } shared
  | leave (seen : UInt64) (stands : before.point = .waiting seen)
      (moved : shared.signals ≠ seen) :
      Move awaitsDiscovery stop before shared { before with point := .idle } shared

variable {awaitsDiscovery stop : Bool} {before after : Monitor} {shared left : SharedSnapshot}

theorem move_of_step? (steps : before.step? awaitsDiscovery stop shared = some (after, left)) :
    Move awaitsDiscovery stop before shared after left := by
  unfold step? at steps
  split at steps <;> rename_i stands
  · cases steps
  · cases steps
    exact .look _ stands
  · split at steps
    · cases steps
    · rename_i free
      cases steps
      refine .enter _ stands fun awaits => ?_
      simpa [awaits] using free
  · split at steps <;> rename_i waits <;> cases steps
    · exact .takeNothing _ stands waits
    · exact .takeSnapshot _ _ stands waits
  · cases steps
    exact .callBack _ stands
  · split at steps
    · cases steps
    · rename_i moved
      cases steps
      refine .leave _ stands fun same => moved ?_
      simp [PublishedState.mustWait, same]

/-- Where a monitor has no step of its own: outside a call, before the first discovery, and as long
as the count has not moved. -/
theorem step?_eq_none_iff :
    before.step? awaitsDiscovery stop shared = none ↔
      before.point = .idle ∨
      (∃ rest, before.point = .flushing rest ∧ awaitsDiscovery = true ∧
        shared.discovered = false) ∨
      before.point = .waiting shared.signals := by
  unfold step?
  cases stands : before.point with
  | idle => simp
  | counted seen => simp
  | flushing rest => simp
  | taking rest => cases waits : shared.take.1 <;> simp
  | notifying rest => simp
  | waiting seen =>
    have same : MonitorPoint.waiting seen = .waiting shared.signals ↔ shared.signals = seen := by
      rw [MonitorPoint.waiting.injEq]
      exact eq_comm
    simp [PublishedState.mustWait, same]

theorem Move.shared_eq (move : Move awaitsDiscovery stop before shared after left) :
    left.signals = shared.signals ∧ left.discovered = shared.discovered := by
  cases move <;> exact ⟨rfl, rfl⟩

end Monitor

/-- The count that a monitor has noted, if it is in a call that noted one. -/
def MonitorPoint.seen? : MonitorPoint → Option UInt64
  | idle => none
  | counted seen | waiting seen => some seen
  | flushing rest | taking rest | notifying rest => rest

theorem Monitor.seen?_afterFlush (rest : Option UInt64) : (afterFlush rest).seen? = rest := by
  cases rest <;> rfl

/-- In a call a monitor keeps the count that it has noted. -/
theorem Monitor.Move.seen?_eq {awaitsDiscovery stop : Bool} {before after : Monitor}
    {shared left : SharedSnapshot} (move : Move awaitsDiscovery stop before shared after left) :
    after.point.seen? = before.point.seen? ∨ after.point.seen? = none := by
  cases move with
  | look seen stands =>
    rw [stands]
    cases stop
    · exact Or.inl rfl
    · exact Or.inr rfl
  | enter rest stands free =>
    left
    rw [stands]
    rfl
  | takeNothing rest stands nothing =>
    left
    rw [stands]
    exact Monitor.seen?_afterFlush rest
  | takeSnapshot rest snapshot stands waits =>
    left
    rw [stands]
    rfl
  | callBack rest stands =>
    left
    rw [stands]
    exact Monitor.seen?_afterFlush rest
  | leave seen stands moved => exact Or.inr rfl

/-- Takes what is there, or calls back for it. -/
def MonitorPoint.inFlush : MonitorPoint → Bool
  | flushing _ | taking _ | notifying _ => true
  | idle | counted _ | waiting _ => false

theorem MonitorPoint.inFlush_afterFlush (rest : Option UInt64) :
    (Monitor.afterFlush rest).inFlush = false := by
  cases rest <;> rfl

/-- A monitor on its backend, among other threads. -/
structure Reader where
  backend : Backend
  monitor : Monitor := {}
  asleep : Bool := false

namespace Reader

def fresh (name : String) (awaitsDiscovery : Bool) : Reader where
  backend := ⟨name, awaitsDiscovery, {}⟩

def withShared (reader : Reader) (shared : SharedSnapshot) : Reader :=
  { reader with backend := { reader.backend with shared } }

/-- The reader's next step on its own, if it were awake. -/
def next? (reader : Reader) (stop : Bool) : Option (Monitor × SharedSnapshot) :=
  reader.monitor.step? reader.backend.awaitsDiscovery stop reader.backend.shared

/-- The reader cannot go on: it sleeps, or would find no step to take. -/
def IsStuck (reader : Reader) : Prop :=
  reader.asleep = true ∨ ∀ stop, reader.next? stop = none

/-- Lets a reader go on alone, for some steps at most. -/
def goOn : (steps : Nat) → Reader → Reader
  | 0, reader => reader
  | steps + 1, reader =>
    match reader.next? false with
    | none => reader
    | some (monitor, shared) => goOn steps { reader.withShared shared with monitor }

def Returns (reader : Reader) : Prop := ∃ steps, (reader.goOn steps).monitor.point = .idle

/-- Something that happens to a reader. A move carries the answer to whether it should stop. -/
inductive Event where
  | publish (snapshot : Snapshot)
  | signal
  | wakeUp
  | beginFlush
  | beginWait
  | move (stop : Bool)
  | fallAsleep

def Event.arrives : Event → Bool
  | publish _ | signal => true
  | wakeUp | beginFlush | beginWait | move _ | fallAsleep => false

/-- What can happen to a reader next. -/
inductive Step : Reader → Event → Reader → Prop
  | publish (reader : Reader) (snapshot : Snapshot) :
      Step reader (.publish snapshot)
        { reader.withShared (reader.backend.shared.publish snapshot) with asleep := false }
  | signal (reader : Reader) :
      Step reader .signal
        { reader.withShared reader.backend.shared.signal with asleep := false }
  | wakeUp (reader : Reader) (sleeps : reader.asleep = true) :
      Step reader .wakeUp { reader with asleep := false }
  | beginFlush (reader : Reader) (idle : reader.monitor.point = .idle) :
      Step reader .beginFlush { reader with monitor := reader.monitor.beginFlush }
  | beginWait (reader : Reader) (idle : reader.monitor.point = .idle) :
      Step reader .beginWait
        { reader with monitor := reader.monitor.beginWait reader.backend.shared }
  | move (reader : Reader) (stop : Bool) (monitor : Monitor) (shared : SharedSnapshot)
      (awake : reader.asleep = false) (steps : reader.next? stop = some (monitor, shared)) :
      Step reader (.move stop) { reader.withShared shared with monitor }
  | fallAsleep (reader : Reader) (awake : reader.asleep = false)
      (inside : reader.monitor.point ≠ .idle) (held : ∀ stop, reader.next? stop = none) :
      Step reader .fallAsleep { reader with asleep := true }

theorem next?_eq_none_iff {reader : Reader} {stop : Bool} :
    reader.next? stop = none ↔
      reader.monitor.point = .idle ∨
      (∃ rest, reader.monitor.point = .flushing rest ∧ reader.backend.awaitsDiscovery = true ∧
        reader.backend.shared.discovered = false) ∨
      reader.monitor.point = .waiting reader.backend.shared.signals :=
  Monitor.step?_eq_none_iff

theorem goOn_of_next?_eq_none {reader : Reader} (held : reader.next? false = none)
    (steps : Nat) : reader.goOn steps = reader := by
  cases steps with
  | zero => rfl
  | succ steps => rw [goOn, held]

abbrev Run (first : Reader) (events : List Event) (last : Reader) : Prop :=
  Trace Step first events last

/-- A reader that sleeps is held up in a call, and would find so again. -/
def SleepsRightly (reader : Reader) : Prop :=
  reader.asleep = true →
    reader.monitor.point ≠ .idle ∧ ∀ stop, reader.next? stop = none

theorem Step.sleepsRightly {reader after : Reader} {event : Event}
    (step : Step reader event after) (rightly : reader.SleepsRightly) : after.SleepsRightly := by
  cases step with
  | beginFlush idle => exact fun sleeps => absurd idle (rightly sleeps).1
  | beginWait idle => exact fun sleeps => absurd idle (rightly sleeps).1
  | move stop monitor shared awake steps =>
    intro sleeps
    exact absurd (awake.symm.trans sleeps) Bool.false_ne_true
  | fallAsleep awake inside held => exact fun _ => ⟨inside, held⟩
  -- all else has roused the reader
  | _ => exact nofun

theorem Run.sleepsRightly {first last : Reader} {events : List Event}
    (run : Run first events last) (rightly : first.SleepsRightly) : last.SleepsRightly := by
  induction run with
  | start => exact rightly
  | step _ next ih => exact next.sleepsRightly ih

/-- A reader that cannot go on would find no step to take, whether or not it sleeps. -/
theorem IsStuck.next?_eq_none {reader : Reader} (stuck : reader.IsStuck)
    (rightly : reader.SleepsRightly) (stop : Bool) : reader.next? stop = none := by
  rcases stuck with sleeps | held
  · exact (rightly sleeps).2 stop
  · exact held stop

theorem Step.awaitsDiscovery_eq {reader after : Reader} {event : Event}
    (step : Step reader event after) :
    after.backend.awaitsDiscovery = reader.backend.awaitsDiscovery := by
  cases step <;> rfl

theorem Run.awaitsDiscovery_eq {first last : Reader} {events : List Event}
    (run : Run first events last) :
    last.backend.awaitsDiscovery = first.backend.awaitsDiscovery := by
  induction run with
  | start => rfl
  | step _ next ih => exact next.awaitsDiscovery_eq.trans ih

/-- What arrives moves the count by one, and nothing else moves it. -/
theorem Step.signals_eq {reader after : Reader} {event : Event} (step : Step reader event after) :
    after.backend.shared.signals =
      reader.backend.shared.signals + UInt64.ofNat ([event].countP Event.arrives) := by
  cases step with
  | publish snapshot => rfl
  | signal => rfl
  | move stop monitor shared awake steps =>
    have same := (Monitor.move_of_step? steps).shared_eq.1
    simpa [withShared, Event.arrives] using same
  | _ => simp [Event.arrives]

theorem Run.signals_eq {first last : Reader} {events : List Event} (run : Run first events last) :
    last.backend.shared.signals =
      first.backend.shared.signals + UInt64.ofNat (events.countP Event.arrives) := by
  induction run with
  | start => simp
  | step _ next ih =>
    rw [next.signals_eq, ih, List.countP_append, UInt64.ofNat_add, UInt64.add_assoc]

end Reader

end SoundDevices
