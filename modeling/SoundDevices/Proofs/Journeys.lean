import SoundDevices.Proofs.Handoff
import SoundDevices.Proofs.ReaderRuns

set_option autoImplicit false

namespace SoundDevices

open PublishedState (Act gather_concat handedOut replay replay_concat)

namespace Monitor

/-- The snapshot that a monitor has installed and has yet to call back for. -/
def pending (monitor : Monitor) : Option Snapshot :=
  match monitor.point with
  | .notifying _ => monitor.current
  | _ => none

theorem pending_eq_none {monitor : Monitor} (quiet : ∀ rest, monitor.point ≠ .notifying rest) :
    monitor.pending = none := by
  unfold pending
  split
  · rename_i rest stands
    exact absurd stands (quiet rest)
  · rfl

theorem pending_of_notifying {monitor : Monitor} {rest : Option UInt64}
    (stands : monitor.point = .notifying rest) : monitor.pending = monitor.current := by
  rw [pending, stands]

end Monitor

namespace Reader

structure Occasion where
  found : Reader
  event : Event

namespace Occasion

def act? (occasion : Occasion) : Option (Act Snapshot) :=
  match occasion.event with
  | .publish snapshot => some (.publish snapshot)
  | .signal => some .signal
  | .move _ =>
    match occasion.found.monitor.point with
    | .taking _ => some .take
    | _ => none
  | .wakeUp | .beginFlush | .beginWait | .fallAsleep => none

def taken? (occasion : Occasion) : Option Snapshot :=
  occasion.act?.bind (Act.handsOut occasion.found.backend.shared)

theorem taken?_of_taking {found : Reader} {stop : Bool} {rest : Option UInt64}
    (stands : found.monitor.point = .taking rest) :
    taken? ⟨found, .move stop⟩ = found.backend.shared.ready := by
  simp [taken?, act?, stands, Act.handsOut, PublishedState.take]

end Occasion

def acts (history : List Occasion) : List (Act Snapshot) := history.filterMap Occasion.act?

def taken (history : List Occasion) : List Snapshot := history.filterMap Occasion.taken?

/-- A step from the reader that the event finds. -/
inductive Occurs : Reader → Occasion → Reader → Prop
  | of {reader after : Reader} {event : Event} (step : Step reader event after) :
      Occurs reader ⟨reader, event⟩ after

/-- A run that tells for each event also the reader that it finds. -/
abbrev Journey (first : Reader) (history : List Occasion) (last : Reader) : Prop :=
  Trace Occurs first history last

theorem Journey.run {first last : Reader} {history : List Occasion}
    (journey : Journey first history last) : Run first (history.map Occasion.event) last := by
  induction journey with
  | start => exact .start
  | step _ next ih =>
    obtain ⟨step⟩ := next
    rw [List.map_append]
    exact ih.step step

theorem Run.exists_journey {first last : Reader} {events : List Event}
    (run : Run first events last) :
    ∃ history, history.map Occasion.event = events ∧ Journey first history last := by
  induction run with
  | start => exact ⟨[], rfl, .start⟩
  | step _ next ih =>
    obtain ⟨history, same, journey⟩ := ih
    refine ⟨_, ?_, journey.step (.of next)⟩
    rw [List.map_append, same]
    rfl

section Steps

variable {reader after : Reader} {occasion : Occasion}

theorem Occurs.shared_eq (occurs : Occurs reader occasion after) :
    after.backend.shared =
      occasion.act?.elim reader.backend.shared (Act.apply reader.backend.shared) := by
  obtain ⟨step⟩ := occurs
  cases step with
  | move stop monitor shared awake steps =>
    cases Monitor.move_of_step? steps with
    | look _ stands | callBack _ stands => simp [Occasion.act?, stands, withShared]
    | enter _ stands _ | leave _ stands _ => simp [Occasion.act?, stands, withShared]
    | takeNothing _ stands _ | takeSnapshot _ _ stands _ =>
      simp [Occasion.act?, stands, withShared, Act.apply]
  | _ => rfl

/-- What is taken becomes pending, and what is pending is called back. -/
theorem Occurs.notified_eq (occurs : Occurs reader occasion after) :
    after.monitor.notified ++ after.monitor.pending.toList =
      reader.monitor.notified ++ reader.monitor.pending.toList ++ occasion.taken?.toList := by
  obtain ⟨step⟩ := occurs
  cases step with
  | move stop monitor shared awake steps =>
    cases Monitor.move_of_step? steps with
    | look _ stands => cases stop <;> simp [Occasion.taken?, Occasion.act?, Monitor.pending, stands]
    | enter _ stands _ | leave _ stands _ =>
      simp [Occasion.taken?, Occasion.act?, Monitor.pending, stands]
    | takeNothing rest stands nothing =>
      rw [Occasion.taken?_of_taking stands, nothing]
      cases rest <;> simp [Monitor.pending, Monitor.afterFlush, stands]
    | takeSnapshot rest snapshot stands waits =>
      rw [Occasion.taken?_of_taking stands, waits]
      simp [Monitor.pending, stands]
    | callBack rest stands =>
      cases rest <;>
        simp [Occasion.taken?, Occasion.act?, Monitor.pending, Monitor.afterFlush, stands]
  | beginFlush idle | beginWait idle =>
    simp [Occasion.taken?, Occasion.act?, Monitor.pending, Monitor.beginFlush, Monitor.beginWait,
      idle]
  | publish snapshot | signal | wakeUp | fallAsleep =>
    simp [Occasion.taken?, Occasion.act?, Act.handsOut, withShared]

theorem Occurs.current_eq (occurs : Occurs reader occasion after) :
    after.monitor.current = occasion.taken?.or reader.monitor.current := by
  obtain ⟨step⟩ := occurs
  cases step with
  | move stop monitor shared awake steps =>
    cases Monitor.move_of_step? steps with
    | look _ stands | callBack _ stands => simp [Occasion.taken?, Occasion.act?, stands]
    | enter _ stands _ | leave _ stands _ => simp [Occasion.taken?, Occasion.act?, stands]
    | takeNothing _ stands nothing =>
      rw [Occasion.taken?_of_taking stands, nothing]
      rfl
    | takeSnapshot _ _ stands waits =>
      rw [Occasion.taken?_of_taking stands, waits]
      rfl
  | _ => rfl

/-- A monitor calls back for the snapshot that it has installed before, and leaves it there. -/
theorem Step.notified_eq {event : Event} (step : Step reader event after) :
    after.monitor.notified = reader.monitor.notified ∨
      (∃ rest, reader.monitor.point = .notifying rest) ∧
        after.monitor.notified = reader.monitor.notified ++ reader.monitor.current.toList ∧
        after.monitor.current = reader.monitor.current := by
  cases step with
  | move stop monitor shared awake steps =>
    cases Monitor.move_of_step? steps with
    | callBack rest stands => exact Or.inr ⟨⟨rest, stands⟩, rfl, rfl⟩
    | _ => exact Or.inl rfl
  | _ => exact Or.inl rfl

/-- A monitor that is to call back has a snapshot to do so for, and one that takes from a backend
whose first discovery has to be waited for does so after the discovery. -/
structure InOrder (reader : Reader) : Prop where
  installed (rest : Option UInt64) :
    reader.monitor.point = .notifying rest → ∃ snapshot, reader.monitor.current = some snapshot
  entered (rest : Option UInt64) :
    reader.monitor.point = .taking rest → reader.backend.awaitsDiscovery = true →
      reader.backend.shared.discovered = true

theorem InOrder.of_ne {reader : Reader} (quiet : ∀ rest, reader.monitor.point ≠ .notifying rest)
    (untaking : ∀ rest, reader.monitor.point ≠ .taking rest) : reader.InOrder :=
  ⟨fun rest stands => absurd stands (quiet rest),
    fun rest stands => absurd stands (untaking rest)⟩

theorem InOrder.occurs (kept : reader.InOrder) (occurs : Occurs reader occasion after) :
    after.InOrder := by
  obtain ⟨step⟩ := occurs
  cases step with
  | publish snapshot => exact ⟨kept.installed, fun _ _ _ => rfl⟩
  | signal => exact ⟨kept.installed, kept.entered⟩
  | wakeUp sleeps => exact ⟨kept.installed, kept.entered⟩
  | fallAsleep awake inside held => exact ⟨kept.installed, kept.entered⟩
  | beginFlush idle => exact .of_ne nofun nofun
  | beginWait idle => exact .of_ne nofun nofun
  | move stop monitor shared awake steps =>
    cases Monitor.move_of_step? steps with
    | look seen stands => cases stop <;> exact .of_ne nofun nofun
    | enter rest stands free => exact ⟨nofun, fun _ _ => free⟩
    | takeNothing rest stands nothing => cases rest <;> exact .of_ne nofun nofun
    | takeSnapshot rest snapshot stands waits => exact ⟨fun _ _ => ⟨snapshot, rfl⟩, nofun⟩
    | callBack rest stands => cases rest <;> exact .of_ne nofun nofun
    | leave seen stands moved => exact .of_ne nofun nofun

end Steps

section Journeys

variable {first last : Reader} {history : List Occasion}

theorem Journey.inOrder (journey : Journey first history last) (kept : first.InOrder) :
    last.InOrder := by
  induction journey with
  | start => exact kept
  | step _ next ih => exact ih.occurs next

theorem acts_append (earlier later : List Occasion) :
    acts (earlier ++ later) = acts earlier ++ acts later := List.filterMap_append

theorem taken_append (earlier later : List Occasion) :
    taken (earlier ++ later) = taken earlier ++ taken later := List.filterMap_append

theorem acts_singleton (occasion : Occasion) : acts [occasion] = occasion.act?.toList := by
  cases does : occasion.act? <;> simp [acts, does]

theorem taken_singleton (occasion : Occasion) : taken [occasion] = occasion.taken?.toList := by
  cases takes : occasion.taken? <;> simp [taken, takes]

/-- The published state is what the history has made of it. -/
theorem Journey.shared_eq (journey : Journey first history last) :
    last.backend.shared = replay first.backend.shared (acts history) := by
  induction journey with
  | start => rfl
  | @step history state after occasion _ next ih =>
    rw [next.shared_eq, ih, acts_append, acts_singleton]
    cases does : occasion.act? with
    | none => simp
    | some act => exact (replay_concat _ _ _).symm

/-- What the reader takes is what the published state hands out. -/
theorem Journey.handedOut_eq {opening : List (Act Snapshot)}
    (journey : Journey first history last) (opened : first.backend.shared = replay {} opening) :
    handedOut (opening ++ acts history) = handedOut opening ++ taken history := by
  induction journey with
  | start => simp [acts, taken]
  | @step history state after occasion journey next ih =>
    have found : state.backend.shared = replay {} (opening ++ acts history) := by
      rw [Journey.shared_eq journey, opened]
      exact (List.foldl_append ..).symm
    obtain ⟨step⟩ := next
    rw [acts_append, taken_append, ← List.append_assoc, ← List.append_assoc, ← ih,
      acts_singleton, taken_singleton, Occasion.taken?]
    cases does : Occasion.act? _ with
    | none => simp
    | some act =>
      rw [found]
      exact gather_concat _ _ _ _

/-- Of what was taken all is called back, in this order, but for what is pending. -/
theorem Journey.notified_eq (journey : Journey first history last) :
    last.monitor.notified ++ last.monitor.pending.toList =
      first.monitor.notified ++ first.monitor.pending.toList ++ taken history := by
  induction journey with
  | start => simp [taken]
  | step _ next ih =>
    rw [next.notified_eq, ih, taken_append, taken_singleton, List.append_assoc _ (taken _)]

/-- The snapshot at hand is the one taken last. -/
theorem Journey.current_eq (journey : Journey first history last) :
    last.monitor.current = (taken history).getLast?.or first.monitor.current := by
  induction journey with
  | start => rfl
  | @step history state after occasion _ next ih =>
    rw [next.current_eq, ih, taken_append, taken_singleton, List.getLast?_append]
    cases occasion.taken? <;> rfl

end Journeys

end Reader

end SoundDevices
