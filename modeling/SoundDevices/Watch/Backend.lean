import SoundDevices.Config.Watch
import SoundDevices.Watch.Machine
import SoundDevices.Watch.Monitor

set_option autoImplicit false

namespace SoundDevices

/-- A device that is not there, at all rates. -/
def dummyDevice (name description : String) (purpose : Purpose) (roles : List ChannelRole) :
    Device where
  name := name
  description := description
  purpose := purpose
  isRaw := false
  layout := .ofRoles roles
  rateMin := 8000
  rateMax := 5644800
  rateDefault := 48000

/-- One dummy output and one dummy input, both defaults. -/
def dummySnapshot : Snapshot :=
  .ofEntries
    [(dummyDevice "dummy-out" "Dummy Output Device" .output [.frontLeft, .frontRight], true),
     (dummyDevice "dummy-in" "Dummy Input Device" .input [.frontCenter], true)]

/-- What a monitor needs to know of its backend. -/
structure Backend where
  name : String
  awaitsDiscovery : Bool
  shared : SharedSnapshot

namespace Backend

/-- The backend with a fixed pair of devices. -/
def dummy : Backend where
  name := BackendKind.dummy.name
  awaitsDiscovery := false
  shared := PublishedState.publish {} dummySnapshot

def ofPipeline (pipeline : Pipeline) : Backend where
  name := BackendKind.alsa.name
  awaitsDiscovery := true
  shared := pipeline.published

def manual (name : String) : Backend := ⟨name, false, {}⟩

/-- The backend that a configuration asks for. -/
def start (config : WatchConfig) (disk : Disk) (shown : String) (system : SoundSystem) :
    Except Error Backend :=
  match config.backend with
  | .dummy => .ok dummy
  | .alsa =>
    (Pipeline.start disk shown config.watchDir system config.preferredRate).map ofPipeline

end Backend

namespace Visit

inductive Event where
  | flushed
  | changed (snapshot : Snapshot)
  | waited (seen : UInt64) (blocks : Bool)
  deriving DecidableEq, Repr

end Visit

/-- A monitor on its backend. `wakeInCheck` and `wakeInFlush` tell of a wake that comes while the
monitor asks whether to stop, and while it takes what is there. -/
structure Visit where
  backend : Backend
  monitor : Monitor := {}
  stop : Bool := false
  wakeInCheck : Bool := false
  wakeInFlush : Bool := false

namespace Visit

def withShared (visit : Visit) (shared : SharedSnapshot) : Visit :=
  { visit with backend := { visit.backend with shared } }

/-- What comes right before a monitor's step: the wakes that are due there, and a wake that frees
a monitor which would wait for good. -/
def prepare (visit : Visit) : List Event × Visit :=
  let shared := visit.backend.shared
  match visit.monitor.point with
  | .counted _ =>
    ([], if visit.wakeInCheck then
      { visit.withShared shared.signal with wakeInCheck := false } else visit)
  | .flushing _ =>
    ([.flushed], if visit.wakeInFlush then
      { visit.withShared shared.signal with wakeInFlush := false } else visit)
  | .notifying _ => (visit.monitor.current.toList.map .changed, visit)
  | .waiting seen =>
    ([.waited seen (shared.mustWait seen)],
      if shared.mustWait seen then visit.withShared shared.signal else visit)
  | .idle | .taking _ => ([], visit)

/-- Works on until the monitor is idle, for some steps. -/
def work : (steps : Nat) → Visit → List Event × Visit
  | 0, visit => ([], visit)
  | steps + 1, visit =>
    let (events, visit) := visit.prepare
    match visit.monitor.step? visit.backend.awaitsDiscovery visit.stop visit.backend.shared with
    | none => (events, visit)
    | some (monitor, shared) =>
      let (more, last) := work steps { visit.withShared shared with monitor }
      (events ++ more, last)

/-- The steps of the longest call: counting, flushing, taking, calling back and waiting. -/
def longestCall : Nat := 6

def flush (visit : Visit) : List Event × Visit :=
  { visit with monitor := visit.monitor.beginFlush }.work longestCall

/-- The monitor waits for events, unless it should stop. -/
def wait (visit : Visit) (stop wakeInCheck : Bool) : List Event × Visit :=
  { visit with monitor := visit.monitor.beginWait visit.backend.shared, stop, wakeInCheck }.work
    longestCall

def publish (visit : Visit) (snapshot : Snapshot) : Visit :=
  visit.withShared (visit.backend.shared.publish snapshot)

def wake (visit : Visit) : Visit := visit.withShared visit.backend.shared.signal

end Visit

end SoundDevices
