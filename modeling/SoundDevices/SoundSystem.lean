import SoundDevices.Hint
import SoundDevices.Rate

set_option autoImplicit false

namespace SoundDevices

/-- What an opened device tells of itself: the map in use, the maps it offers in its place, and
the two ends of its sample rates. -/
structure PcmCaps where
  currentMap : Option ChannelMap
  offeredMaps : List ChannelMap
  rateMin : RateBound
  rateMax : RateBound
  deriving DecidableEq, Repr, Inhabited

/-- The answers of one card: its name, the numbers of its devices, and the name of a device in
one direction, none if it has no stream there. -/
structure CardControl where
  cardName : Except Error String
  pcmDevices : Except Error (List UInt32)
  pcmName : UInt32 → Purpose → Except Error (Option String)

/-- The answers of a sound system. A card that is gone has no control. -/
structure SoundSystem where
  pcmHints : Except Error (List Hint)
  cards : Except Error (List UInt32)
  openControl : UInt32 → Except Error (Option CardControl)
  openPcm : String → Purpose → Except Error PcmCaps
  hwChannelMaps : UInt32 → UInt32 → Purpose → Option (List ChannelMap)

/-- A machine without cards or names, on which every device opens in vain. -/
def SoundSystem.silent : SoundSystem where
  pcmHints := .ok []
  cards := .ok []
  openControl := fun _ => .ok none
  openPcm := fun name _ => .error (.openingDevice name)
  hwChannelMaps := fun _ _ _ => none

/-- A question to the sound system. -/
inductive Call where
  | pcmHints
  | cards
  | openControl (card : UInt32)
  | cardName (card : UInt32)
  | pcmDevices (card : UInt32)
  | pcmName (card device : UInt32) (purpose : Purpose)
  | hwChannelMaps (card device : UInt32) (purpose : Purpose)
  | openPcm (purpose : Purpose) (name : String)
  deriving DecidableEq, Repr

def Call.text : Call → String
  | pcmHints => "pcm_hints"
  | cards => "cards"
  | openControl card => "open_control " ++ toString card.toNat
  | cardName card => "card_name " ++ toString card.toNat
  | pcmDevices card => "pcm_devices " ++ toString card.toNat
  | pcmName card device purpose =>
    "pcm_name " ++ toString card.toNat ++ " " ++ toString device.toNat ++ " " ++ purpose.label
  | hwChannelMaps card device purpose =>
    "hw_channel_maps " ++ toString card.toNat ++ " " ++ toString device.toNat ++ " " ++
      purpose.label
  | openPcm purpose name => "open_pcm " ++ purpose.label ++ " " ++ name

/-- The outcome of asking a sound system, which the first failing question decides, and what it was
asked, in order. -/
structure Traced (α : Type) where
  calls : List Call
  result : Except Error α

namespace Traced

variable {α β : Type}

protected def pure (value : α) : Traced α := ⟨[], .ok value⟩

/-- Asks on with the result, unless there is none. -/
protected def bind (first : Traced α) (next : α → Traced β) : Traced β :=
  match first.result with
  | .error failure => ⟨first.calls, .error failure⟩
  | .ok value => ⟨first.calls ++ (next value).calls, (next value).result⟩

instance : Monad Traced where
  pure := Traced.pure
  bind := Traced.bind

/-- One question whose failure ends the computation. -/
def ask (call : Call) (answer : Except Error α) : Traced α := ⟨[call], answer⟩

/-- One question whose answer is a value whatever it is. -/
def note (call : Call) (answer : α) : Traced α := ⟨[call], .ok answer⟩

/-- Runs over a list and joins what each member yields. -/
def collect (next : α → Traced (List β)) : List α → Traced (List β)
  | [] => pure []
  | x :: xs => do
    let head ← next x
    let tail ← collect next xs
    return head ++ tail

@[simp] theorem calls_pure (value : α) : (pure value : Traced α).calls = [] := rfl

@[simp] theorem result_pure (value : α) : (pure value : Traced α).result = .ok value := rfl

theorem bind_of_error (first : Traced α) (next : α → Traced β) (failure : Error)
    (failed : first.result = .error failure) :
    (first >>= next) = ⟨first.calls, .error failure⟩ := by
  simp [Bind.bind, Traced.bind, failed]

theorem bind_of_ok (first : Traced α) (next : α → Traced β) (value : α)
    (succeeded : first.result = .ok value) :
    (first >>= next) = ⟨first.calls ++ (next value).calls, (next value).result⟩ := by
  simp [Bind.bind, Traced.bind, succeeded]

@[simp] theorem collect_nil (next : α → Traced (List β)) : collect next [] = pure [] := rfl

theorem collect_cons (next : α → Traced (List β)) (x : α) (xs : List α) :
    collect next (x :: xs) =
      (next x >>= fun head => collect next xs >>= fun tail => pure (head ++ tail)) := rfl

end Traced

end SoundDevices
