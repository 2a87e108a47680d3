set_option autoImplicit false

namespace SoundDevices

/-- An end of a range of rates. A negative `direction` says that the true bound lies just below
`rate`, a positive one that it lies just above; zero is exact. -/
structure RateBound where
  rate : UInt32
  direction : Int32
  deriving DecidableEq, Repr, Inhabited

namespace RateBound

def exact (rate : UInt32) : RateBound := ⟨rate, 0⟩

/-- One more, but never past the largest rate. -/
def increase (rate : UInt32) : UInt32 :=
  if rate.toNat + 1 < UInt32.size then rate + 1 else rate

/-- One less, but never below zero. -/
def decrease (rate : UInt32) : UInt32 :=
  if 0 < rate then rate - 1 else rate

/-- The least whole rate that a lower bound admits. -/
def lowest (bound : RateBound) : UInt32 :=
  if 0 < bound.direction then increase bound.rate else bound.rate

/-- The largest whole rate that an upper bound admits. -/
def highest (bound : RateBound) : UInt32 :=
  if bound.direction < 0 then decrease bound.rate else bound.rate

end RateBound

structure RateRange where
  min : UInt32
  max : UInt32
  deriving DecidableEq, Repr, Inhabited

namespace RateRange

/-- The whole rates between two bounds. -/
def ofBounds (lower upper : RateBound) : RateRange :=
  ⟨lower.lowest, upper.highest⟩

def contains (range : RateRange) (rate : UInt32) : Bool :=
  decide (range.min ≤ rate) && decide (rate ≤ range.max)

/-- The preferred rate where the range has it, else the largest rate of the range. -/
def choose (range : RateRange) (preferred : UInt32) : UInt32 :=
  if range.contains preferred then preferred else range.max

theorem choose_of_contains (range : RateRange) (preferred : UInt32)
    (inside : range.contains preferred = true) : range.choose preferred = preferred :=
  if_pos inside

end RateRange

end SoundDevices
