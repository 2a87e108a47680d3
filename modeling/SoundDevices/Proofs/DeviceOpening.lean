import SoundDevices.Alsa.Script

set_option autoImplicit false

namespace SoundDevices.Alsa

def openOrder : List Function :=
  [.pcmOpen, .allocateParams, .paramsAny, .setRateResample, .setAccess, .setChannelsLast,
    .getRateMax, .getRateMin]

/-- The functions of some steps up to the first that fails, and that one. -/
def calledOf : List (Function × Int32) → List Function
  | [] => []
  | (function, code) :: rest => function :: if code < 0 then [] else calledOf rest

section Steps

variable {before after : List (Function × Int32)} {function : Function} {code : Int32}

end Steps

/-- The outcome of calls to the library, and the functions that were called, in order. -/
@[ext] structure Called (α : Type) where
  functions : List Function
  result : Except Error α

namespace Called

variable {α β : Type}

protected def pure (value : α) : Called α := ⟨[], .ok value⟩

/-- Goes on with the result, unless there is none. -/
protected def bind (first : Called α) (next : α → Called β) : Called β :=
  match first.result with
  | .error failure => ⟨first.functions, .error failure⟩
  | .ok value => ⟨first.functions ++ (next value).functions, (next value).result⟩

instance : Monad Called where
  pure := Called.pure
  bind := Called.bind

def call (function : Function) (code : Int32) (toError : Failure → Error) (answer : α) : Called α :=
  ⟨[function], if code < 0 then .error (toError ⟨function, -code⟩) else .ok answer⟩

/-- The calls of some steps are made until one fails, and come to its error or else to a value. -/
structure Follows (toError : Failure → Error) (part : Called α) (steps : List (Function × Int32))
    (value : α) : Prop where
  functions : part.functions = calledOf steps
  result : part.result =
    match firstFailure steps with
    | some failure => .error (toError failure)
    | none => .ok value

end Called

namespace Library

variable (library : Library) (name : String) (purpose : Purpose)

def openCode (function : Function) : Int32 :=
  if function = .allocateParams then library.paramsAllocation name purpose
  else (library.pcm name purpose).code function

def openError (failure : Failure) : Error :=
  if failure.errno = 12 then .noMemory
  else .openingDevice (purpose.label ++ " " ++ name ++ ": " ++ library.shown failure)

open Called in
def opening : Called PcmCaps :=
  if name.toList.contains '\x00' then
    ⟨[], .error (.openingDevice ("invalid device name " ++ Text.quote name))⟩
  else do
    let device := library.pcm name purpose
    let failed := library.openError name purpose
    call .pcmOpen (device.code .pcmOpen) failed ()
    call .allocateParams (library.paramsAllocation name purpose) (fun _ => .noMemory) ()
    call .paramsAny (device.code .paramsAny) failed ()
    call .setRateResample (device.code .setRateResample) failed ()
    call .setAccess (device.code .setAccess) failed ()
    call .setChannelsLast (device.code .setChannelsLast) failed ()
    let rateMax ← call .getRateMax (device.code .getRateMax) failed device.rateMax
    let rateMin ← call .getRateMin (device.code .getRateMin) failed device.rateMin
    let currentMap := device.currentMap.map rolesOf
    let offeredMaps := if currentMap.isSome then [] else (mapsOf device.offeredMaps).getD []
    return { currentMap, offeredMaps, rateMin, rateMax }

variable {library name purpose}

variable (library name purpose)

/-- The first function that fails when the device is opened, and those called before it. -/
structure FailsFirst (before : List Function) (function : Function) : Prop where
  stands : ∃ after, openOrder = before ++ function :: after
  earlier : ∀ other ∈ before, 0 ≤ library.openCode name purpose other
  fails : library.openCode name purpose function < 0

variable {library name purpose}

variable (library name purpose)

variable {library name purpose}

theorem FailsFirst.mem {before : List Function} {function : Function}
    (first : library.FailsFirst name purpose before function) : function ∈ openOrder := by
  obtain ⟨after, stands⟩ := first.stands
  simp [stands]

end Library

end SoundDevices.Alsa
