import SoundDevices.Device

set_option autoImplicit false

namespace SoundDevices

structure DeviceList where
  devices : List Device := []
  defaultIndex : Option Nat := none
  deriving DecidableEq, Repr, Inhabited

namespace DeviceList

/-- Appends a device; a default device takes over from the one before. -/
def push (list : DeviceList) (device : Device) (isDefault : Bool) : DeviceList where
  devices := list.devices ++ [device]
  defaultIndex := if isDefault then some list.devices.length else list.defaultIndex

@[simp] theorem devices_push (list : DeviceList) (device : Device) (isDefault : Bool) :
    (list.push device isDefault).devices = list.devices ++ [device] := rfl

@[simp] theorem defaultIndex_push_true (list : DeviceList) (device : Device) :
    (list.push device true).defaultIndex = some list.devices.length := rfl

@[simp] theorem defaultIndex_push_false (list : DeviceList) (device : Device) :
    (list.push device false).defaultIndex = list.defaultIndex := rfl

def count (list : DeviceList) : Nat := list.devices.length

def get? (list : DeviceList) (index : Nat) : Option Device := list.devices[index]?

def defaultDevice (list : DeviceList) : Option Device :=
  list.defaultIndex.bind list.get?

def find? (list : DeviceList) (name : String) : Option Device :=
  list.devices.find? (·.name == name)

end DeviceList

/-- All devices found at one time. -/
structure Snapshot where
  outputs : DeviceList := {}
  inputs : DeviceList := {}
  deriving DecidableEq, Repr, Inhabited

namespace Snapshot

def empty : Snapshot := {}

def list (snapshot : Snapshot) : Purpose → DeviceList
  | .output => snapshot.outputs
  | .input => snapshot.inputs

@[simp] theorem list_output (snapshot : Snapshot) : snapshot.list .output = snapshot.outputs := rfl

@[simp] theorem list_input (snapshot : Snapshot) : snapshot.list .input = snapshot.inputs := rfl

def insert (snapshot : Snapshot) (device : Device) (isDefault : Bool) : Snapshot :=
  match device.purpose with
  | .output => { snapshot with outputs := snapshot.outputs.push device isDefault }
  | .input => { snapshot with inputs := snapshot.inputs.push device isDefault }

theorem list_insert (snapshot : Snapshot) (device : Device) (isDefault : Bool)
    (purpose : Purpose) :
    (snapshot.insert device isDefault).list purpose =
      if device.purpose = purpose then (snapshot.list purpose).push device isDefault
      else snapshot.list purpose := by
  cases kind : device.purpose <;> cases purpose <;> simp [insert, kind]

/-- Files a device under its purpose and tells its position there. -/
def push (snapshot : Snapshot) (device : Device) (isDefault : Bool) : Nat × Snapshot :=
  ((snapshot.list device.purpose).count, snapshot.insert device isDefault)

/-- The snapshot made by pushing the devices one after the other; a flag marks a default. -/
def ofEntries (entries : List (Device × Bool)) : Snapshot :=
  entries.foldl (fun snapshot entry => (snapshot.push entry.1 entry.2).2) empty

@[simp] theorem ofEntries_nil : ofEntries [] = empty := rfl

theorem ofEntries_concat (entries : List (Device × Bool)) (device : Device) (isDefault : Bool) :
    ofEntries (entries ++ [(device, isDefault)]) = (ofEntries entries).insert device isDefault := by
  simp [ofEntries, push]

def devices (snapshot : Snapshot) (purpose : Purpose) : List Device :=
  (snapshot.list purpose).devices

def count (snapshot : Snapshot) (purpose : Purpose) : Nat :=
  (snapshot.list purpose).count

def device? (snapshot : Snapshot) (purpose : Purpose) (index : Nat) : Option Device :=
  (snapshot.list purpose).get? index

/-- Where the default device of one purpose stands. -/
def defaultIndex (snapshot : Snapshot) (purpose : Purpose) : Option Nat :=
  (snapshot.list purpose).defaultIndex

def defaultDevice (snapshot : Snapshot) (purpose : Purpose) : Option Device :=
  (snapshot.list purpose).defaultDevice

def find? (snapshot : Snapshot) (purpose : Purpose) (name : String) : Option Device :=
  (snapshot.list purpose).find? name

def isEmpty (snapshot : Snapshot) : Bool :=
  snapshot.outputs.devices.isEmpty && snapshot.inputs.devices.isEmpty

end Snapshot

end SoundDevices
