import SoundDevices.CommandLine.Program
import SoundDevices.Config.OfToml

set_option autoImplicit false

namespace SoundDevices.Process

def osErrorOf : IO.Error → OsError
  | .noFileOrDirectory _ number _ => .code number.toNat
  | .permissionDenied _ number _ => .code number.toNat
  | .inappropriateType _ number _ => .code number.toNat
  | .resourceExhausted _ number _ => .code number.toNat
  | .invalidArgument _ number _ => .code number.toNat
  | .noSuchThing _ number _ => .code number.toNat
  | .otherError number _ => .code number.toNat
  | failure => .custom (toString failure)

def outcomeOf {α : Type} (action : IO α) : IO (Except OsError α) := do
  try
    return .ok (← action)
  catch failure =>
    return .error (osErrorOf failure)

def readEnvironment : IO Environment := do
  let keys := [Environment.backendKey, Environment.watchDirKey, Environment.sampleRateKey,
    Environment.debugKey]
  let values ← keys.mapM fun key => return (key, (← IO.getEnv key).map Text.encode)
  return fun key => (values.lookup key).join

/-- What comes of an action for each of some paths. -/
def outcomes {α : Type} (paths : List String) (action : String → IO α) :
    IO (String → Except OsError α) := do
  let found ← paths.mapM fun path => return (path, ← outcomeOf (action path))
  return fun path => (found.lookup path).getD (.error .notFound)

/-- The disk as far as some paths go. What can be opened to be read can be watched. -/
def readDisk (paths : List String) : IO Disk := do
  let resolved ← outcomes paths fun path => IO.FS.realPath path
  let contents ← outcomes paths fun path => IO.FS.readBinFile path
  let opened ← outcomes paths fun path => IO.FS.Handle.mk path .read
  return {
    present := fun path => (resolved path).toOption.isSome
    contents := fun path => (contents path).map ByteArray.toList
    watch := fun path => (opened path).map fun _ => () }

partial def waitForInterrupt : IO Unit := do
  IO.sleep 60000
  waitForInterrupt

/-- Runs the program and tells its exit code. No sound library is linked in, so that the machine is
one without cards. -/
def run (arguments : List String) : IO UInt32 := do
  let env ← readEnvironment
  let named := (Options.parse arguments).toOption.bind (·.config)
  let configPath := named.getD AppConfig.defaultFile
  let call : Program.Call :=
    { arguments, env, disk := ← readDisk [configPath], system := .silent }
  let settings := Program.settings AppConfig.ofToml call
  let watchDir := (settings.toOption.map (·.watch.watchDir)).toList
  let disk ← readDisk (configPath :: watchDir)
  let outcome := Program.run AppConfig.ofToml { call with disk }
  IO.print outcome.stdout
  (← IO.getStdout).flush
  for message in outcome.log do
    IO.eprintln (message.level.name ++ " " ++ message.shown)
  IO.eprint outcome.stderr
  let goesOn := settings.toOption.any fun settings => !settings.once
  if outcome.exit = some 0 && goesOn then waitForInterrupt
  return UInt32.ofNat (outcome.exit.getD (128 + outcome.signal.getD 0))

end SoundDevices.Process

def main (arguments : List String) : IO UInt32 :=
  SoundDevices.Process.run arguments
