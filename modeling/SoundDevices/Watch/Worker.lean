import SoundDevices.Watch.Backend

set_option autoImplicit false

/- A worker: a thread that lets its monitor wait for events until it is to stop, and then closes it.
`Worker.step?` is the worker's next step on its own, and the other operations are what other
threads do in between.

A worker is interrupted in two steps, first the flag and then a wake. It looks at the flag before
every call, and inside the call again after the count of signals was noted: a wake that comes
before the count was noted is missed, but then the flag is not. -/
namespace SoundDevices

/-- Where a worker stands in its loop. -/
inductive WorkerPoint where
  | asking
  | calling
  | inside
  | closed
  deriving DecidableEq, Repr, Inhabited

/-- A worker's monitor and its backend, the flag that tells it to stop, and where it stands. -/
structure Worker where
  backend : Backend
  monitor : Monitor := {}
  stop : Bool := false
  point : WorkerPoint := .asking

namespace Worker

def withShared (worker : Worker) (shared : SharedSnapshot) : Worker :=
  { worker with backend := { worker.backend with shared } }

def publish (worker : Worker) (snapshot : Snapshot) : Worker :=
  worker.withShared (worker.backend.shared.publish snapshot)

def wake (worker : Worker) : Worker := worker.withShared worker.backend.shared.signal

/-- The first step of an interrupt: the flag. -/
def raiseStop (worker : Worker) : Worker := { worker with stop := true }

/-- Both steps of an interrupt. -/
def interrupt (worker : Worker) : Worker := worker.raiseStop.wake

def goTo (worker : Worker) (point : WorkerPoint) : Worker := { worker with point }

/-- The monitor's next step inside a call. -/
def monitorStep? (worker : Worker) : Option Worker :=
  let backend := worker.backend
  (worker.monitor.step? backend.awaitsDiscovery worker.stop backend.shared).map fun after =>
    { worker.withShared after.2 with monitor := after.1 }

/-- The next step of a worker; none while its monitor waits, and after its end. -/
def step? (worker : Worker) : Option Worker :=
  match worker.point with
  | .asking => some (worker.goTo (if worker.stop then .closed else .calling))
  | .calling =>
    some { worker with monitor := worker.monitor.beginWait worker.backend.shared, point := .inside }
  | .inside =>
    if worker.monitor.point = .idle then some (worker.goTo .asking) else worker.monitorStep?
  | .closed => none

/-- Takes the worker's own steps, `bound` of them at most. -/
def workSteps : (bound : Nat) → Worker → Worker
  | 0, worker => worker
  | bound + 1, worker =>
    match worker.step? with
    | none => worker
    | some after => workSteps bound after

/-- Lets a worker go on until it waits or ends, while nobody else does anything. A round of its
loop takes eight steps, and a second round has nothing left to take. -/
def work (worker : Worker) : Worker := worker.workSteps 16

@[simp] theorem stop_interrupt (worker : Worker) : worker.interrupt.stop = true := rfl

@[simp] theorem point_interrupt (worker : Worker) :
    worker.interrupt.point = worker.point := rfl

@[simp] theorem monitor_interrupt (worker : Worker) :
    worker.interrupt.monitor = worker.monitor := rfl

@[simp] theorem signals_interrupt (worker : Worker) :
    worker.interrupt.backend.shared.signals = worker.backend.shared.signals + 1 := rfl

end Worker

end SoundDevices
