import SoundDevices.Watch.FolderChange
import SoundDevices.Watch.Pipeline

set_option autoImplicit false

namespace SoundDevices

namespace Pipeline

/-- Takes the watcher's own steps, `bound` of them at most. -/
def advanceSteps : (bound : Nat) → Pipeline → Pipeline
  | 0, pipeline => pipeline
  | bound + 1, pipeline =>
    match pipeline.step? with
    | none => pipeline
    | some after => advanceSteps bound after

/-- Lets the watcher run until it waits, sweeps or ends. Each record and each byte takes one step
at most, and a round of the loop fewer than eight besides. -/
def advance (pipeline : Pipeline) : Pipeline :=
  pipeline.advanceSteps (16 + pipeline.session.queue.pending.length + pipeline.session.pipe.pending)

/-- Lets the watcher run, with sweeps of one system, for some rounds. -/
def settleRounds (system : SoundSystem) (preferred : UInt32) : (rounds : Nat) → Pipeline → Pipeline
  | 0, pipeline => pipeline
  | rounds + 1, pipeline =>
    let pipeline := pipeline.advance
    match pipeline.point with
    | .sweeping =>
      settleRounds system preferred rounds (pipeline.endSweep (enumerate system preferred))
    | _ => pipeline

def settle (system : SoundSystem) (preferred : UInt32) (pipeline : Pipeline) : Pipeline :=
  pipeline.settleRounds system preferred 3

def watch (disk : Disk) (shown path : String) : Except Error Pipeline :=
  (WatchSession.watch disk shown path).map .initial

def start (disk : Disk) (shown path : String) (system : SoundSystem) (preferred : UInt32) :
    Except Error Pipeline := do
  let pipeline ← watch disk shown path
  return pipeline.wake.settle system preferred

end Pipeline

/-- A machine. The pipeline hears of the changes of the folder that has the number `watched`,
wherever it is moved. The thread of the watcher can be waited for as long as its handle is held. -/
structure Machine where
  tree : FileTree := {}
  watched : Option Nat := none
  system : SoundSystem := .silent
  preferred : UInt32 := 48000
  pipeline : Pipeline := {}
  holdsThread : Bool := true

namespace Machine

def watch (tree : FileTree) (shown path : String) (system : SoundSystem) (preferred : UInt32) :
    Except Error Machine := do
  let pipeline ← Pipeline.watch tree.disk shown path
  let watched := (tree.node path).toOption.map (·.number)
  return { tree, watched, system, preferred, pipeline }

def act (machine : Machine) (actions : List FileAction) : Machine :=
  let changed := machine.tree.performAll actions
  let heard := changed.2.filter fun change => some change.folder == machine.watched
  { machine with
    tree := changed.1
    pipeline := machine.pipeline.recordMerged (heard.map (·.record)) }

def onPipeline (change : Pipeline → Pipeline) (machine : Machine) : Machine :=
  { machine with pipeline := change machine.pipeline }

def settle (machine : Machine) : Machine :=
  machine.onPipeline (Pipeline.settle machine.system machine.preferred)

def start (tree : FileTree) (shown path : String) (system : SoundSystem) (preferred : UInt32) :
    Except Error Machine := do
  let machine ← watch tree shown path system preferred
  return (machine.onPipeline Pipeline.wake).settle

/-- Ends the backend: takes the handle of the watcher's thread, asks for a stop, waits for the
thread's end, and signals the readers. Without the handle there is nothing left to do. -/
def shutdown (machine : Machine) : Machine :=
  if machine.holdsThread then
    let asked := { machine with holdsThread := false }.onPipeline Pipeline.requestStop
    asked.settle.onPipeline Pipeline.signal
  else machine

theorem holdsThread_shutdown (machine : Machine) : machine.shutdown.holdsThread = false := by
  unfold shutdown
  split
  · rfl
  · next gone => exact Bool.eq_false_iff.mpr gone

theorem shutdown_of_not_holdsThread {machine : Machine} (gone : machine.holdsThread = false) :
    machine.shutdown = machine := by
  rw [shutdown, gone, if_neg Bool.false_ne_true]

def take (machine : Machine) : Option Snapshot × Machine :=
  (machine.pipeline.take.1, machine.onPipeline fun pipeline => pipeline.take.2)

end Machine

namespace Rehearsal

inductive Act where
  | files (actions : List FileAction)
  | wake
  | requestStop
  deriving DecidableEq, Repr

def Act.apply (machine : Machine) : Act → Machine
  | files actions => machine.act actions
  | wake => machine.onPipeline Pipeline.wake
  | requestStop => machine.onPipeline Pipeline.requestStop

/-- What happens right after a sweep has begun: some acts, and then another system may answer. -/
structure Cue where
  acts : List Act := []
  system : Option SoundSystem := none

/-- What can be seen from outside at one time. Looking takes the snapshot that waits. -/
structure Note where
  state : RunState
  discovered : Bool
  signals : UInt64
  ready : Option Snapshot
  deriving DecidableEq, Repr

def look (machine : Machine) : Note × Machine :=
  let pipeline := machine.pipeline
  ({ state := pipeline.state
     discovered := pipeline.published.discovered
     signals := pipeline.published.signals
     ready := pipeline.published.ready },
   machine.take.2)

/-- A run so far: the machine, the cues to come, and what was noted. -/
structure Stage where
  machine : Machine
  cues : List Cue := []
  notes : List Note := []
  calls : List Call := []
  wentIdle : Bool := false

def Stage.sweep (stage : Stage) : Stage :=
  let seen := look stage.machine
  let cue := stage.cues.headD {}
  let machine := cue.acts.foldl Act.apply seen.2
  let machine := { machine with system := cue.system.getD machine.system }
  let swept := Sweep.run machine.system machine.preferred
  { stage with
    machine := machine.onPipeline (·.endSweep swept.result)
    cues := stage.cues.drop 1
    notes := stage.notes ++ [seen.1]
    calls := stage.calls ++ swept.calls }

/-- Runs a watcher to its end, for some rounds. A watcher that waits for good is asked to stop. -/
def Stage.play : (rounds : Nat) → Stage → Except Error Stage
  | 0, stage => .ok stage
  | rounds + 1, stage =>
    let stage := { stage with machine := stage.machine.onPipeline Pipeline.advance }
    match stage.machine.pipeline.point with
    | .sweeping => play rounds stage.sweep
    | .polling =>
      play rounds
        { stage with
          machine := stage.machine.onPipeline Pipeline.requestStop
          wentIdle := true }
    | .aborted failure => .error failure
    | _ => .ok stage

structure Report where
  initial : Note
  sweeps : List Note
  final : Note
  wentIdle : Bool
  calls : List Call

/-- Runs a watcher from start to stop, or to the sweep that fails. What happens after a sweep has
begun leads to one more sweep at most, so there are no more sweeps than cues and one. -/
def run (machine : Machine) (acts : List Act) (cues : List Cue) : Except Error Report := do
  let first := look (acts.foldl Act.apply machine)
  let stage ← Stage.play (cues.length + 4) { machine := first.2, cues }
  return {
    initial := first.1
    sweeps := stage.notes
    final := (look stage.machine).1
    wentIdle := stage.wentIdle
    calls := stage.calls }

end Rehearsal

end SoundDevices
