import SoundDevices.Proofs.OpenedDevices
import SoundDevices.Proofs.SnapshotEntries
import SoundDevices.Sweep

set_option autoImplicit false

namespace SoundDevices

namespace Traced

variable {α β : Type}

/-- A computation with a value has asked all questions of both its parts. -/
theorem of_bind_ok {first : Traced α} {next : α → Traced β} {value : β}
    (found : (first >>= next).result = .ok value) :
    ∃ x, first.result = .ok x ∧ (next x).result = .ok value ∧
      (first >>= next).calls = first.calls ++ (next x).calls := by
  cases outcome : first.result with
  | error failure =>
    rw [bind_of_error first next failure outcome] at found
    exact nomatch found
  | ok x =>
    rw [bind_of_ok first next x outcome] at found ⊢
    exact ⟨x, rfl, found, rfl⟩

/-- Two lists found one after the other, and joined. -/
theorem of_append_ok {first rest : Traced (List α)} {whole : List α}
    (found : (first >>= fun head => rest >>= fun tail => pure (head ++ tail)).result =
      .ok whole) :
    ∃ head tail, first.result = .ok head ∧ rest.result = .ok tail ∧ head ++ tail = whole ∧
      (first >>= fun head => rest >>= fun tail => pure (head ++ tail)).calls =
        first.calls ++ rest.calls := by
  obtain ⟨head, early, found, calls⟩ := of_bind_ok found
  obtain ⟨tail, late, joined, more⟩ := of_bind_ok found
  refine ⟨head, tail, early, late, Except.ok.inj joined, ?_⟩
  rw [calls, more, calls_pure, List.append_nil]

end Traced

def Call.opens (purpose : Purpose) (calls : List Call) : List String :=
  calls.filterMap fun call =>
    match call with
    | openPcm own name => if own = purpose then some name else none
    | _ => none

theorem Call.opens_append (purpose : Purpose) (first second : List Call) :
    opens purpose (first ++ second) = opens purpose first ++ opens purpose second :=
  List.filterMap_append ..

namespace Sweep

open Snapshot (filed filed_append)

/-- If it succeeds, a part of a sweep has opened each of the devices that it found exactly once,
in order. -/
def OpensEach (part : Traced (List Entry)) : Prop :=
  ∀ entries, part.result = .ok entries → ∀ purpose,
    Call.opens purpose part.calls = (filed purpose entries).map (·.1.name)

namespace OpensEach

theorem nil : OpensEach (pure []) := by
  intro entries found purpose
  obtain rfl := Except.ok.inj found
  rfl

/-- Questions that open nothing do not count. -/
theorem ask {α : Type} {call : Call} {answer : Except Error α} {next : α → Traced (List Entry)}
    (opensNothing : ∀ purpose, Call.opens purpose [call] = [])
    (each : ∀ x, OpensEach (next x)) : OpensEach (Traced.ask call answer >>= next) := by
  intro entries found purpose
  obtain ⟨x, -, found, calls⟩ := Traced.of_bind_ok found
  rw [calls, Call.opens_append, each x entries found purpose]
  exact congrArg (· ++ _) (opensNothing purpose)

theorem append {first rest : Traced (List Entry)} (before : OpensEach first)
    (after : OpensEach rest) :
    OpensEach (first >>= fun head => rest >>= fun tail => pure (head ++ tail)) := by
  intro entries found purpose
  obtain ⟨head, tail, early, late, rfl, calls⟩ := Traced.of_append_ok found
  rw [calls, Call.opens_append, before head early, after tail late, filed_append,
    List.map_append]

theorem collect {α : Type} {next : α → Traced (List Entry)} (each : ∀ x, OpensEach (next x))
    (xs : List α) : OpensEach (Traced.collect next xs) := by
  induction xs with
  | nil => exact nil
  | cons x xs ih =>
    rw [Traced.collect_cons]
    exact (each x).append ih

/-- One device, opened once. -/
theorem probe (system : SoundSystem) (device : Device) (known : Option (List ChannelMap))
    (preferred : UInt32) (isDefault : Bool) :
    OpensEach (SoundDevices.probe system device known preferred >>= fun outcome =>
      pure [(Device.settled outcome, isDefault)]) := by
  intro entries found purpose
  obtain rfl := Except.ok.inj found
  rw [Device.settled_probed, probe_eq]
  show Call.opens purpose [.openPcm device.purpose device.name] = _
  by_cases own : device.purpose = purpose
  · simp [Call.opens, filed, own]
  · simp [Call.opens, filed, own]

end OpensEach

theorem opensEach_hintPass (system : SoundSystem) (preferred : UInt32) :
    OpensEach (hintPass system preferred) := by
  refine .ask (fun _ => rfl) fun hints => .collect (fun hint => ?_) hints
  unfold hintEntries
  split
  · exact .nil
  · split
    · exact .nil
    · exact .collect (fun purpose => .probe _ _ _ _ _) _

theorem opensEach_cardEntries (system : SoundSystem) (preferred card : UInt32)
    (control : CardControl) : OpensEach (cardEntries system preferred card control) := by
  refine .ask (fun _ => rfl) fun cardName => .ask (fun _ => rfl) fun devices => ?_
  refine .collect (fun device => .collect (fun purpose => ?_) _) devices
  refine .ask (fun _ => rfl) fun streamName => ?_
  cases streamName with
  | none => exact .nil
  | some streamName => exact .ask (fun _ => rfl) fun known => .probe _ _ _ _ _

theorem opensEach_hardwarePass (system : SoundSystem) (preferred : UInt32) :
    OpensEach (hardwarePass system preferred) := by
  refine .ask (fun _ => rfl) fun cards => ?_
  induction cards with
  | nil => exact .nil
  | cons card cards ih =>
    refine .ask (fun _ => rfl) fun control => ?_
    cases control with
    | none => exact .nil
    | some control => exact (opensEach_cardEntries system preferred card control).append ih

/-- A sweep that succeeds files what its two passes find, names on offer first, and has opened
what it files. -/
theorem of_run_ok {system : SoundSystem} {preferred : UInt32} {snapshot : Snapshot}
    (found : (run system preferred).result = .ok snapshot) :
    ∃ named raw, (hintPass system preferred).result = .ok named ∧
      (hardwarePass system preferred).result = .ok raw ∧
      snapshot = .ofEntries (named ++ raw) ∧
      ∀ purpose, Call.opens purpose (run system preferred).calls =
        (filed purpose (named ++ raw)).map (·.1.name) := by
  obtain ⟨named, early, found, calls⟩ := Traced.of_bind_ok found
  obtain ⟨raw, late, joined, more⟩ := Traced.of_bind_ok found
  refine ⟨named, raw, early, late, (Except.ok.inj joined).symm, ?_⟩
  intro purpose
  have both := (opensEach_hintPass system preferred) named early purpose
  have rest := (opensEach_hardwarePass system preferred) raw late purpose
  show Call.opens purpose (run system preferred).calls = _
  rw [run, calls, more, Traced.calls_pure, List.append_nil, Call.opens_append, both, rest,
    filed_append, List.map_append]

end Sweep

end SoundDevices
