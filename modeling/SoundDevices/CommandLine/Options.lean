import SoundDevices.Text.Quoted

set_option autoImplicit false

namespace SoundDevices

structure Options where
  config : Option String := none
  json : Bool := false
  once : Bool := false
  dummy : Bool := false
  deriving DecidableEq, Repr, Inhabited

inductive UsageError where
  | missingPath
  | unknown (argument : String)
  deriving DecidableEq, Repr

namespace UsageError

def usage : String := "usage: soundwatch [--config <path>] [--json] [--once] [--dummy]"

def message : UsageError → String
  | missingPath => "--config needs a path\n" ++ usage
  | unknown argument => "unknown argument " ++ Text.quote argument ++ "\n" ++ usage

end UsageError

namespace Options

/-- Reads arguments on top of what was asked for before. Of several paths the last one counts. -/
def parseFrom (before : Options) : List String → Except UsageError Options
  | [] => .ok before
  | "--config" :: path :: rest => parseFrom { before with config := some path } rest
  | ["--config"] => .error .missingPath
  | "--json" :: rest => parseFrom { before with json := true } rest
  | "--once" :: rest => parseFrom { before with once := true } rest
  | "--dummy" :: rest => parseFrom { before with dummy := true } rest
  | argument :: _ => .error (.unknown argument)

/-- Reads a command line, without the name of the program. -/
def parse (arguments : List String) : Except UsageError Options := parseFrom {} arguments

end Options

end SoundDevices
