import SoundDevices.Layout
import SoundDevices.Error

set_option autoImplicit false

namespace SoundDevices

/-- Whether a device plays or records. -/
inductive Purpose where
  | output
  | input
  deriving DecidableEq, Repr, Inhabited

namespace Purpose

/-- Both purposes, in the order in which devices are looked for. -/
def all : List Purpose := [output, input]

theorem mem_all (purpose : Purpose) : purpose ∈ all := by
  cases purpose <;> decide

def label : Purpose → String
  | output => "output"
  | input => "input"

def name : Purpose → String
  | output => "Output"
  | input => "Input"

end Purpose

/-- One device. `isRaw` marks a hardware path, in contrast to a name that the sound system
offers. Rates are in Hz and zero until the device has been probed. -/
structure Device where
  name : String
  description : String
  purpose : Purpose
  isRaw : Bool
  layout : ChannelLayout := .empty
  rateMin : UInt32 := 0
  rateMax : UInt32 := 0
  rateDefault : UInt32 := 0
  probeError : Option Error := none
  deriving DecidableEq, Repr, Inhabited

/-- The device has been opened once and told its rates. -/
def Device.isProbed (device : Device) : Bool :=
  device.probeError.isNone && 0 < device.rateMax

theorem Device.isProbed_of_probeError (device : Device) (failure : Error)
    (failed : device.probeError = some failure) : device.isProbed = false := by
  simp [isProbed, failed]

end SoundDevices
