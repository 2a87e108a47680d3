import SoundDevices.Text.Quoted

set_option autoImplicit false

namespace SoundDevices

inductive LogLevel where
  | debug
  | error
  | info
  | warn
  deriving DecidableEq, Repr

namespace LogLevel

def name : LogLevel → String
  | debug => "DEBUG"
  | error => "ERROR"
  | info => "INFO"
  | warn => "WARN"

def all : List LogLevel := [debug, error, info, warn]

theorem mem_levels (level : LogLevel) : level ∈ all := by
  cases level <;> decide

end LogLevel

/-- What is logged at one time. -/
structure LogMessage where
  level : LogLevel
  text : String
  deriving DecidableEq, Repr

namespace LogMessage

/-- Control characters beyond ASCII, each of which stands for two of ASCII. -/
def isHighControl (c : Char) : Bool := '\u0080' ≤ c && c ≤ '\u009f'

/-- One character as a log shows it. A control on which a terminal would act is escaped, so that a
name taken from a device can do no harm. -/
def showChar (c : Char) : List Char :=
  if c = '\x07' then ['\\', 'x', '0', '7']
  else if c = '\x08' then ['\\', 'x', '0', '8']
  else if c = '\x0c' then ['\\', 'x', '0', 'c']
  else if c = '\x1b' then ['\\', 'x', '1', 'b']
  else if c = '\x7f' then ['\\', 'x', '7', 'f']
  else if isHighControl c then ['\\', 'u', '\x7b'] ++ Text.hexDigits c.toNat ++ ['\x7d']
  else [c]

def shown (message : LogMessage) : String :=
  String.ofList (message.text.toList.flatMap showChar)

end LogMessage

end SoundDevices
