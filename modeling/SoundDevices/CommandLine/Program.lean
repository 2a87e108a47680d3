import SoundDevices.CommandLine.Options
import SoundDevices.Config.Watch
import SoundDevices.FileTree
import SoundDevices.Report
import SoundDevices.SweepLog
import SoundDevices.Watch.Worker

set_option autoImplicit false

namespace SoundDevices

inductive StartError where
  | usage (failure : UsageError)
  | unreadable (path : String) (failure : OsError)
  | malformed (path diagnosis : String)
  | device (failure : Error)
  deriving DecidableEq, Repr

def StartError.message : StartError → String
  | usage failure => failure.message
  | unreadable path failure => "failed to read " ++ path ++ ": " ++ failure.message
  | malformed path diagnosis => path ++ ": " ++ diagnosis
  | device failure => failure.message

namespace AppConfig

def defaultFile : String := "soundwatch.toml"

/-- How the text of a file is read: as settings, or else what is wrong with it. -/
abbrev Decoder := String → Except String AppConfig

/-- The settings in a file, which has to be there. `shown` is how a message names the path. -/
def loadFrom (decode : Decoder) (disk : Disk) (shown path : String) :
    Except StartError AppConfig :=
  match disk.readText path with
  | .error failure => .error (.unreadable shown failure)
  | .ok text => (decode text).mapError (.malformed shown)

/-- The settings in the named file, or in the default file if that is there. -/
def load (decode : Decoder) (disk : Disk) (path : Option String) : Except StartError AppConfig :=
  match path with
  | some path => loadFrom decode disk path path
  | none =>
    if disk.present defaultFile then loadFrom decode disk defaultFile defaultFile else .ok {}

end AppConfig

/-- How the program ended: its exit code or the signal that ended it, what it wrote on both
streams, the log left out, and what it logged. -/
structure Outcome where
  exit : Option Nat
  signal : Option Nat
  stdout : String
  stderr : String
  log : List LogMessage
  deriving DecidableEq, Repr

namespace Outcome

def abortSignal : Nat := 6

def success (stdout : String) (log : List LogMessage) : Outcome :=
  ⟨some 0, none, stdout, "", log⟩

def refused (failure : StartError) : Outcome :=
  ⟨some 1, none, "", "Error: " ++ Text.quote failure.message ++ "\n", []⟩

/-- A program whose sweep failed. Nothing is known of the devices then, and it ends itself. -/
def aborted (failure : Error) (log : List LogMessage) : Outcome :=
  ⟨none, some abortSignal, "", "soundwatch: " ++ Sweep.failureText failure ++ "\n", log⟩

/-- The levels of the messages, each once and in order. The log of a process that a signal ended may
not be complete, so that none are told. -/
def levels (outcome : Outcome) : Option (List LogLevel) :=
  if outcome.signal.isSome then none
  else some (LogLevel.all.filter fun level => outcome.log.any (·.level == level))

end Outcome

namespace Program

/-- What the program finds when it is called. -/
structure Call where
  arguments : List String
  env : Environment
  disk : Disk
  system : SoundSystem

structure Settings where
  watch : WatchConfig
  json : Bool
  once : Bool
  deriving DecidableEq, Repr

/-- The settings from all layers: the file, over it the environment, over it the command line. -/
def layered (options : Options) (app : AppConfig) (env : Environment) : Settings where
  watch :=
    let watch := app.watch.withEnvironment env
    { watch with backend := if options.dummy then .dummy else watch.backend }
  json := app.json || options.json
  once := options.once

def settings (decode : AppConfig.Decoder) (call : Call) : Except StartError Settings := do
  let options ← (Options.parse call.arguments).mapError .usage
  let app ← AppConfig.load decode call.disk options.config
  return layered options app call.env

def print (json : Bool) (snapshot : Snapshot) : String :=
  if json then (Report.snapshotJson snapshot).render ++ "\n" else Report.snapshot snapshot

def printAll (json : Bool) (monitor : Monitor) : String :=
  String.join (monitor.notified.map (print json))

def monitorMessage (backend : Backend) : LogMessage :=
  ⟨.info, "device monitor using " ++ backend.name ++ " backend"⟩

/-- How a log names the first watch of a process. -/
def firstWatch : String := "WatchDescriptor \x7b id: 1, fd: (Weak) \x7d"

def startMessages (dir : String) : List LogMessage :=
  [⟨.debug, "watching " ++ dir ++ " (" ++ firstWatch ++ ")"⟩,
   ⟨.debug, "hotplug backend watching " ++ dir⟩,
   ⟨.debug, "device watcher started"⟩]

def endMessages (once : Bool) : List LogMessage :=
  if once then [] else [⟨.info, "shutting down"⟩]

def kept (debug : Bool) (log : List LogMessage) : List LogMessage :=
  log.filter fun message => debug || message.level != .debug

/-- The monitor at the end: it has taken what is there, or has served until the interrupt. -/
def watched (once : Bool) (backend : Backend) : Monitor :=
  if once then (Visit.flush { backend }).2.monitor
  else (Worker.work { backend }).interrupt.work.monitor

def watch (settings : Settings) (debug : Bool) (log : List LogMessage) (backend : Backend) :
    Outcome :=
  .success (printAll settings.json (watched settings.once backend))
    (kept debug (log ++ monitorMessage backend :: endMessages settings.once))

/-- Runs the program once, or until it is interrupted after its first snapshot. -/
def run (decode : AppConfig.Decoder) (call : Call) : Outcome :=
  match settings decode call with
  | .error failure => .refused failure
  | .ok settings =>
    let debug := call.env.flag Environment.debugKey
    match settings.watch.backend with
    | .dummy => watch settings debug [] .dummy
    | .alsa =>
      let dir := settings.watch.watchDir
      match Pipeline.start call.disk dir dir call.system settings.watch.preferredRate with
      | .error failure => .refused (.device failure)
      | .ok pipeline =>
        let log := startMessages dir ++ Sweep.log call.system settings.watch.preferredRate
        match pipeline.point with
        | .aborted failure => .aborted failure (kept debug log)
        | _ => watch settings debug log (.ofPipeline pipeline)

end Program

end SoundDevices
