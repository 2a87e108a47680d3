set_option autoImplicit false

namespace SoundDevices

/-- What two threads share: at most one result, which is handed out once, and a count of
publications and signals, which wraps around. -/
structure PublishedState (α : Type) where
  ready : Option α := none
  signals : UInt64 := 0
  discovered : Bool := false
  deriving DecidableEq, Repr, Inhabited

namespace PublishedState

variable {α : Type}

def publish (state : PublishedState α) (result : α) : PublishedState α where
  ready := some result
  signals := state.signals + 1
  discovered := true

/-- Hands out the result that waits, if one does. -/
def take (state : PublishedState α) : Option α × PublishedState α :=
  (state.ready, { state with ready := none })

def signal (state : PublishedState α) : PublishedState α :=
  { state with signals := state.signals + 1 }

/-- Waiting for the count to move past `seen` does not end yet. -/
def mustWait (state : PublishedState α) (seen : UInt64) : Bool := state.signals == seen

@[simp] theorem take_publish (state : PublishedState α) (result : α) :
    (state.publish result).take.1 = some result := rfl

@[simp] theorem take_take (state : PublishedState α) : state.take.2.take.1 = none := rfl

@[simp] theorem signals_publish (state : PublishedState α) (result : α) :
    (state.publish result).signals = state.signals + 1 := rfl

@[simp] theorem signals_take (state : PublishedState α) :
    state.take.2.signals = state.signals := rfl

@[simp] theorem signals_signal (state : PublishedState α) :
    state.signal.signals = state.signals + 1 := rfl

@[simp] theorem discovered_publish (state : PublishedState α) (result : α) :
    (state.publish result).discovered = true := rfl

@[simp] theorem discovered_take (state : PublishedState α) :
    state.take.2.discovered = state.discovered := rfl

@[simp] theorem discovered_signal (state : PublishedState α) :
    state.signal.discovered = state.discovered := rfl

@[simp] theorem ready_signal (state : PublishedState α) :
    state.signal.ready = state.ready := rfl

end PublishedState

end SoundDevices
