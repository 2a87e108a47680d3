import SoundDevices.Snapshot
import SoundDevices.Watch.Published

set_option autoImplicit false

/- The monitor: the reader of a published state. It keeps the newest snapshot it has taken and calls
back once for each. `Monitor.step?` is the reader's next step on its own, so that what other
threads do can come in between; none means that the reader waits.

To wait for events, the reader first notes the count of signals, asks whether it should stop,
takes what is there, and then waits for the count to move on. Nothing that happens after the count
was noted is missed. -/
namespace SoundDevices

/-- Where a reader stands: in no call, with the count noted, in a flush (before the first discovery,
before it takes the result, or before it calls back), or in its wait. `after` is the count to wait
on once the flush is over, if any. -/
inductive MonitorPoint where
  | idle
  | counted (seen : UInt64)
  | flushing (after : Option UInt64)
  | taking (after : Option UInt64)
  | notifying (after : Option UInt64)
  | waiting (seen : UInt64)
  deriving DecidableEq, Repr, Inhabited

/-- A reader: the snapshot it has, the ones it has called back for, and where it stands. -/
structure Monitor where
  current : Option Snapshot := none
  notified : List Snapshot := []
  point : MonitorPoint := .idle
  deriving Inhabited

/-- What a reader shares with its backend. -/
abbrev SharedSnapshot := PublishedState Snapshot

namespace Monitor

def beginFlush (monitor : Monitor) : Monitor := { monitor with point := .flushing none }

/-- Begins to wait for events: notes the count. -/
def beginWait (monitor : Monitor) (shared : SharedSnapshot) : Monitor :=
  { monitor with point := .counted shared.signals }

def afterFlush : Option UInt64 → MonitorPoint
  | none => .idle
  | some seen => .waiting seen

/-- The next step of a reader. `stop` is the answer to whether it should stop, and
`awaitsDiscovery` tells of a backend whose first discovery has to be waited for. -/
def step? (awaitsDiscovery stop : Bool) (monitor : Monitor) (shared : SharedSnapshot) :
    Option (Monitor × SharedSnapshot) :=
  match monitor.point with
  | .idle => none
  | .counted seen =>
    some ({ monitor with point := if stop then .idle else .flushing (some seen) }, shared)
  | .flushing after =>
    if awaitsDiscovery && !shared.discovered then none
    else some ({ monitor with point := .taking after }, shared)
  | .taking after =>
    match shared.take.1 with
    | none => some ({ monitor with point := afterFlush after }, shared.take.2)
    | some snapshot =>
      some ({ monitor with current := some snapshot, point := .notifying after }, shared.take.2)
  | .notifying after =>
    some ({ monitor with
      notified := monitor.notified ++ monitor.current.toList
      point := afterFlush after }, shared)
  | .waiting seen =>
    if shared.mustWait seen then none else some ({ monitor with point := .idle }, shared)

def list (monitor : Monitor) (purpose : Purpose) : DeviceList :=
  (monitor.current.map (·.list purpose)).getD {}

def count (monitor : Monitor) (purpose : Purpose) : Nat := (monitor.list purpose).count

def device? (monitor : Monitor) (purpose : Purpose) (index : Nat) : Option Device :=
  (monitor.list purpose).get? index

def defaultIndex (monitor : Monitor) (purpose : Purpose) : Option Nat :=
  (monitor.list purpose).defaultIndex

def defaultDevice (monitor : Monitor) (purpose : Purpose) : Option Device :=
  (monitor.list purpose).defaultDevice

end Monitor

end SoundDevices
