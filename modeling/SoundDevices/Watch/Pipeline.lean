import SoundDevices.Sweep
import SoundDevices.Watch.Session
import SoundDevices.Watch.Published

set_option autoImplicit false

/- The hotplug pipeline: a watcher thread waits for changes of a directory or for a wake byte,
sweeps the sound system, and publishes the snapshot. `Pipeline` is what its threads share together
with the place the watcher has reached; `Pipeline.step?` is the watcher's next step on its own, and
the other operations are what other threads and the kernel do in between.

A stop is asked for in two steps, first the state and then a wake byte. The watcher looks at the
state whenever it has been roused and again after it has read the wake bytes, so a byte is never
read without the state being looked at afterwards. -/
namespace SoundDevices

/-- How far a watcher has come: it runs, it has been asked to stop, it has stopped. -/
inductive RunState where
  | running
  | stopping
  | stopped
  deriving DecidableEq, Repr, Inhabited

namespace RunState

def name : RunState → String
  | running => "Running"
  | stopping => "Stopping"
  | stopped => "Stopped"

/-- Asking to stop moves a running watcher only. -/
def raiseStop : RunState → RunState
  | running => stopping
  | state => state

@[simp] theorem raiseStop_raiseStop (state : RunState) :
    state.raiseStop.raiseStop = state.raiseStop := by
  cases state <;> rfl

end RunState

/-- Where the watcher stands in its loop: before its wait, before a look at the state (`roused` by
some of its sources, or `woken` by the bytes it has read), at its reads, before or in a sweep. At
the end it is `leaving` the loop and then `done`, unless a sweep has failed. -/
inductive WatcherPoint where
  | polling
  | roused (changes wakeups : Bool)
  | readingChanges (wakeups rescan : Bool)
  | readingWakeups
  | woken
  | due
  | sweeping
  | leaving
  | done
  | aborted (failure : Error)
  deriving DecidableEq, Repr, Inhabited

/-- What the threads share, where the watcher stands, and how many sweeps it has begun. -/
structure Pipeline where
  session : WatchSession := {}
  state : RunState := .running
  published : PublishedState Snapshot := {}
  point : WatcherPoint := .polling
  sweeps : Nat := 0
  deriving Inhabited

namespace Pipeline

def initial (session : WatchSession) : Pipeline := { session }

def wake (pipeline : Pipeline) : Pipeline :=
  { pipeline with session := pipeline.session.wake }

/-- The first step of asking for a stop: the state. -/
def raiseStop (pipeline : Pipeline) : Pipeline :=
  { pipeline with state := pipeline.state.raiseStop }

/-- Both steps of asking for a stop. -/
def requestStop (pipeline : Pipeline) : Pipeline := pipeline.raiseStop.wake

def record (pipeline : Pipeline) (queued : QueuedRecord) : Pipeline :=
  { pipeline with session := pipeline.session.record queued }

def recordAll (pipeline : Pipeline) (queued : List QueuedRecord) : Pipeline :=
  { pipeline with session := pipeline.session.recordAll queued }

/-- The directory changes in several ways, and what is like the last change is not noted again. -/
def recordMerged (pipeline : Pipeline) (queued : List QueuedRecord) : Pipeline :=
  { pipeline with session := pipeline.session.recordMerged queued }

/-- To record changes all at once is to record one after the other. -/
theorem recordAll_eq_foldl (pipeline : Pipeline) (queued : List QueuedRecord) :
    pipeline.recordAll queued = queued.foldl record pipeline := by
  unfold recordAll WatchSession.recordAll
  rw [RecordQueue.pushAll_eq_foldl]
  induction queued generalizing pipeline with
  | nil => rfl
  | cons first rest ih =>
    rw [List.foldl_cons, List.foldl_cons, ← ih]
    rfl

def take (pipeline : Pipeline) : Option Snapshot × Pipeline :=
  (pipeline.published.take.1, { pipeline with published := pipeline.published.take.2 })

def signal (pipeline : Pipeline) : Pipeline :=
  { pipeline with published := pipeline.published.signal }

/-- The start of a backend: the first sweep does not wait for a change of the hardware. -/
def started (session : WatchSession) : Pipeline := (initial session).wake

def stopRequested (pipeline : Pipeline) : Bool := pipeline.state != .running

/-- The watcher waits and nothing is there to rouse it. -/
def isBlocked (pipeline : Pipeline) : Bool :=
  pipeline.point == .polling && pipeline.session.queue.pending.isEmpty &&
    !pipeline.session.pipe.isReadable

def goTo (pipeline : Pipeline) (point : WatcherPoint) : Pipeline := { pipeline with point }

/-- Where the watcher goes when it has no more change records to read. -/
def afterChanges (wakeups rescan : Bool) : WatcherPoint :=
  if wakeups then .readingWakeups else if rescan then .due else .polling

/-- Where the watcher goes once roused. -/
def afterRoused (stop changes wakeups : Bool) : WatcherPoint :=
  if stop then .leaving
  else if changes then .readingChanges wakeups false
  else if wakeups then .readingWakeups
  else .polling

/-- The next step of the watcher; none while it waits or sweeps, and after its end. -/
def step? (pipeline : Pipeline) : Option Pipeline :=
  match pipeline.point with
  | .polling =>
    let changes := !pipeline.session.queue.pending.isEmpty
    let wakeups := pipeline.session.pipe.isReadable
    if changes || wakeups then some (pipeline.goTo (.roused changes wakeups)) else none
  | .roused changes wakeups =>
    some (pipeline.goTo (afterRoused pipeline.stopRequested changes wakeups))
  | .readingChanges wakeups rescan =>
    match pipeline.session.queue.read? with
    | none => some (pipeline.goTo (afterChanges wakeups rescan))
    | some (buffer, queue) =>
      some { pipeline with
        session := { pipeline.session with queue }
        point := .readingChanges wakeups (rescan || hasPcmNodeChange buffer) }
  | .readingWakeups =>
    match pipeline.session.pipe.read? with
    | none => some (pipeline.goTo .woken)
    | some pipe => some { pipeline with session := { pipeline.session with pipe } }
  | .woken => some (pipeline.goTo (if pipeline.stopRequested then .leaving else .due))
  | .due => some { pipeline with point := .sweeping, sweeps := pipeline.sweeps + 1 }
  | .leaving => some { pipeline with state := .stopped, point := .done }
  | .sweeping | .done | .aborted _ => none

/-- A sweep ends. Its snapshot is published; a failure leaves nothing that could be. -/
def endSweep (pipeline : Pipeline) (swept : Except Error Snapshot) : Pipeline :=
  match swept with
  | .ok snapshot =>
    { pipeline with published := pipeline.published.publish snapshot, point := .polling }
  | .error failure => pipeline.goTo (.aborted failure)

@[simp] theorem state_wake (pipeline : Pipeline) : pipeline.wake.state = pipeline.state := rfl

@[simp] theorem point_wake (pipeline : Pipeline) : pipeline.wake.point = pipeline.point := rfl

@[simp] theorem point_requestStop (pipeline : Pipeline) :
    pipeline.requestStop.point = pipeline.point := rfl

end Pipeline

end SoundDevices
