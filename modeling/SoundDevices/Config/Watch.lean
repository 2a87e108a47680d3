import SoundDevices.Text.Ascii
import SoundDevices.Text.Blank
import SoundDevices.Text.Utf8

set_option autoImplicit false

namespace SoundDevices

open Text

/-- The ways of finding devices: the ALSA sound system, or a fixed pair of dummy devices. -/
inductive BackendKind where
  | alsa
  | dummy
  deriving DecidableEq, Repr, Inhabited

namespace BackendKind

def name : BackendKind → String
  | alsa => "alsa"
  | dummy => "dummy"

def ofName? (text : String) : Option BackendKind :=
  [alsa, dummy].find? (·.name == text)

theorem ofName?_name (kind : BackendKind) : ofName? kind.name = some kind := by
  cases kind <;> decide

/-- The backend named by a text, whatever its case and the blanks around it. -/
def parse? (text : String) : Option BackendKind :=
  ofName? (String.ofList (lower (trim text.toList)))

end BackendKind

/-- A number written as an optional plus sign and one or more ASCII digits, below 2^32. -/
def parseRate? (text : List Char) : Option UInt32 :=
  let digits := match text with
    | '+' :: rest => rest
    | text => text
  if digits.isEmpty || !digits.all Char.isDigit then none
  else
    let value := digits.foldl (fun n c => n * 10 + (c.toNat - '0'.toNat)) 0
    if value < UInt32.size then some (UInt32.ofNat value) else none

/-- The values of the environment's variables, as bytes; none where a variable is not set. -/
abbrev Environment := String → Option Bytes

namespace Environment

def backendKey : String := "SOUNDWATCH_BACKEND"
def watchDirKey : String := "SOUNDWATCH_WATCH_DIR"
def sampleRateKey : String := "SOUNDWATCH_SAMPLE_RATE"
def debugKey : String := "SOUNDWATCH_DEBUG"

def text? (env : Environment) (key : String) : Option String :=
  (env key).bind decode?

/-- The text of a variable that is not blank. -/
def value? (env : Environment) (key : String) : Option String :=
  (env.text? key).filter fun text => !isAllBlank text.toList

def isYes (text : String) : Bool :=
  ["1", "true", "yes", "on"].contains (String.ofList (lower (trim text.toList)))

def flag (env : Environment) (key : String) : Bool :=
  ((env.text? key).map isYes).getD false

end Environment

/-- Where the system keeps its sound device nodes. -/
def deviceFolder : String := "/dev/snd"

structure WatchConfig where
  backend : BackendKind := .alsa
  watchDir : String := deviceFolder
  preferredRate : UInt32 := 48000
  deriving DecidableEq, Repr, Inhabited

namespace WatchConfig

/-- The configuration with the given values, and the default for each one that is not given. -/
def ofValues (backend : Option BackendKind) (watchDir : Option String)
    (preferredRate : Option UInt32) : WatchConfig where
  backend := backend.getD .alsa
  watchDir := watchDir.getD deviceFolder
  preferredRate := preferredRate.getD 48000

@[simp] theorem ofValues_none : ofValues none none none = {} := rfl

/-- The configuration with what the environment says in its place. A variable that is not UTF-8,
blank or not understood says nothing. -/
def withEnvironment (config : WatchConfig) (env : Environment) : WatchConfig where
  backend := ((env.value? Environment.backendKey).bind BackendKind.parse?).getD config.backend
  watchDir := (env.value? Environment.watchDirKey).getD config.watchDir
  preferredRate :=
    ((env.value? Environment.sampleRateKey).bind fun text => parseRate? (trim text.toList)).getD
      config.preferredRate

end WatchConfig

/-- The settings of the program that a file may hold. -/
structure AppConfig where
  watch : WatchConfig := {}
  json : Bool := false
  deriving DecidableEq, Repr, Inhabited

end SoundDevices
