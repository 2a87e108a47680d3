import Mathlib.Tactic.ByContra
import SoundDevices.Proofs.ReaderRuns

set_option autoImplicit false

namespace SoundDevices

namespace Reader

theorem Step.discovered_of_discovered {reader after : Reader} {event : Event}
    (step : Step reader event after) (discovered : reader.backend.shared.discovered = true) :
    after.backend.shared.discovered = true := by
  cases step with
  | move stop monitor shared awake steps =>
    exact (Monitor.move_of_step? steps).shared_eq.2.trans discovered
  | publish snapshot => rfl
  | _ => exact discovered

theorem Run.discovered_of_discovered {first last : Reader} {events : List Event}
    (run : Run first events last) (discovered : first.backend.shared.discovered = true) :
    last.backend.shared.discovered = true := by
  induction run with
  | start => exact discovered
  | step _ next ih => exact next.discovered_of_discovered ih

/-- The first publication makes the discovery, for good. -/
theorem Run.discovered_of_publish {first last : Reader} {events : List Event}
    {snapshot : Snapshot} (run : Run first events last) (published : .publish snapshot ∈ events) :
    last.backend.shared.discovered = true := by
  induction run with
  | start => exact absurd published List.not_mem_nil
  | step _ next ih =>
    rcases List.mem_append.mp published with earlier | now
    · exact next.discovered_of_discovered (ih earlier)
    · obtain rfl := List.mem_singleton.mp now
      cases next
      rfl

/-- Until it begins to wait anew, a reader has noted the same count or none. -/
theorem Run.seen?_eq {first last : Reader} {events : List Event} (run : Run first events last)
    (once : .beginWait ∉ events) :
    last.monitor.point.seen? = first.monitor.point.seen? ∨ last.monitor.point.seen? = none := by
  induction run with
  | start => exact Or.inl rfl
  | step _ next ih =>
    rw [List.mem_append, not_or, List.mem_singleton] at once
    have kept := ih once.1
    cases next with
    | beginFlush idle => exact Or.inr rfl
    | beginWait idle => exact absurd rfl once.2
    | move stop monitor shared awake steps =>
      rcases (Monitor.move_of_step? steps).seen?_eq with same | none
      · exact kept.imp same.trans same.trans
      · exact Or.inr none
    | _ => exact kept

/-- A reader that waits and cannot go on finds the count that it waits on. -/
theorem IsStuck.signals_eq {reader : Reader} {seen : UInt64} (stuck : reader.IsStuck)
    (rightly : reader.SleepsRightly) (waits : reader.monitor.point = .waiting seen) :
    reader.backend.shared.signals = seen := by
  have held := next?_eq_none_iff.mp (stuck.next?_eq_none rightly false)
  rw [waits] at held
  rcases held with idle | ⟨rest, flushes, -, -⟩ | same
  · exact nomatch idle
  · exact nomatch flushes
  · exact (MonitorPoint.waiting.inj same).symm

/-- A reader that cannot go on with its flush lacks the first discovery. -/
theorem IsStuck.discovered_eq_false {reader : Reader} {rest : Option UInt64}
    (stuck : reader.IsStuck) (rightly : reader.SleepsRightly)
    (flushes : reader.monitor.point = .flushing rest) :
    reader.backend.shared.discovered = false := by
  have held := next?_eq_none_iff.mp (stuck.next?_eq_none rightly false)
  rw [flushes] at held
  rcases held with idle | ⟨-, -, -, undiscovered⟩ | waits
  · exact nomatch idle
  · exact undiscovered
  · exact nomatch waits

/-- A reader leaves its wait only once the count has moved. -/
theorem Step.signals_ne_of_leaves {reader after : Reader} {event : Event} {seen : UInt64}
    (step : Step reader event after) (waits : reader.monitor.point = .waiting seen)
    (leaves : after.monitor.point ≠ .waiting seen) : reader.backend.shared.signals ≠ seen := by
  cases step with
  | beginFlush idle => exact nomatch waits.symm.trans idle
  | beginWait idle => exact nomatch waits.symm.trans idle
  | move stop monitor shared awake steps =>
    have move := Monitor.move_of_step? steps
    cases move with
    | leave own stands moved =>
      obtain rfl := MonitorPoint.waiting.inj (waits.symm.trans stands)
      exact moved
    | look own stands => exact nomatch waits.symm.trans stands
    | enter rest stands => exact nomatch waits.symm.trans stands
    | takeNothing rest stands => exact nomatch waits.symm.trans stands
    | takeSnapshot rest snapshot stands => exact nomatch waits.symm.trans stands
    | callBack rest stands => exact nomatch waits.symm.trans stands
  | _ => exact absurd waits leaves

/-- Wakeups are neither lost nor premature. Let a reader note the count and go on, while others
publish and signal. As long as it waits and cannot go on, nothing has arrived since it noted the
count; if it stops waiting, something has; and before the first discovery it is held up only if
nothing has ever been published. -/
theorem wakeup_is_neither_lost_nor_premature {name : String} {awaitsDiscovery : Bool}
    {past since : List Event} {before sampled reader : Reader}
    (early : Run (fresh name awaitsDiscovery) past before)
    (sample : Step before .beginWait sampled) (late : Run sampled since reader)
    (once : .beginWait ∉ since) (few : since.countP Event.arrives < UInt64.size) :
    (∀ seen, reader.monitor.point = .waiting seen → reader.IsStuck →
      ∀ event ∈ since, event.arrives = false) ∧
    (∀ seen event after, reader.monitor.point = .waiting seen → Step reader event after →
      after.monitor.point ≠ .waiting seen → ∃ event ∈ since, event.arrives = true) ∧
    (∀ rest, reader.monitor.point = .flushing rest → reader.IsStuck →
      ∀ snapshot, .publish snapshot ∉ past ++ .beginWait :: since) := by
  have rightly : reader.SleepsRightly :=
    late.sleepsRightly (sample.sleepsRightly (early.sleepsRightly nofun))
  -- the count that the reader waits on is that of the sample
  have counted (seen : UInt64) (waits : reader.monitor.point = .waiting seen) :
      reader.backend.shared.signals = seen + UInt64.ofNat (since.countP Event.arrives) := by
    have noted := late.seen?_eq once
    rw [waits] at noted
    cases sample with
    | beginWait idle =>
      rw [late.signals_eq, Option.some.inj (noted.resolve_right nofun)]
  refine ⟨?_, ?_, ?_⟩
  · intro seen waits stuck event member
    have moved := counted seen waits
    rw [stuck.signals_eq rightly waits] at moved
    have nothing := (PublishedState.add_ofNat_eq_self_iff few).mp moved.symm
    exact Bool.eq_false_iff.mpr (List.countP_eq_zero.mp nothing event member)
  · intro seen event after waits step leaves
    by_contra quiet
    have none : since.countP Event.arrives = 0 := by
      rw [List.countP_eq_zero]
      exact fun event member arrives => quiet ⟨event, member, arrives⟩
    have same := counted seen waits
    rw [none] at same
    exact step.signals_ne_of_leaves waits leaves (same.trans (UInt64.add_zero seen))
  · intro rest flushes stuck snapshot published
    have discovered : reader.backend.shared.discovered = true := by
      rw [List.mem_append, List.mem_cons] at published
      rcases published with before | sampling | later
      · have known := Run.discovered_of_publish early before
        exact late.discovered_of_discovered (sample.discovered_of_discovered known)
      · exact nomatch sampling
      · exact late.discovered_of_publish later
    have undiscovered := stuck.discovered_eq_false rightly flushes
    exact Bool.false_ne_true (undiscovered.symm.trans discovered)

/-- A signal that comes while the reader takes the first snapshot: once the reader has come to wait
it does not stay, though nothing else arrives. -/
theorem wakeup_is_neither_lost_nor_premature_in_flush :
    ∃ past before sampled since reader, Run (fresh "alsa" true) past before ∧
      Step before .beginWait sampled ∧ Run sampled since reader ∧
      reader.monitor.notified = [{}] ∧ reader.monitor.point = .waiting 1 ∧
      ¬reader.IsStuck := by
  let idle : Reader := ⟨⟨"alsa", true, ⟨some {}, 1, true⟩⟩, {}, false⟩
  let sampled : Reader := { idle with monitor.point := .counted 1 }
  let taking : Reader := ⟨⟨"alsa", true, ⟨some {}, 2, true⟩⟩, ⟨none, [], .taking (some 1)⟩, false⟩
  let waiting : Reader := ⟨⟨"alsa", true, ⟨none, 2, true⟩⟩, ⟨some {}, [{}], .waiting 1⟩, false⟩
  have early : Run (fresh "alsa" true) [.publish {}] idle := Trace.start.step (.publish _ {})
  have sample : Step idle .beginWait sampled := .beginWait _ rfl
  have flushes : Run sampled [.move false, .move false, .signal] taking :=
    Trace.start.step (.move _ _ _ _ rfl rfl) |>.step (.move _ _ _ _ rfl rfl)
      |>.step (.signal _)
  have late : Run sampled [.move false, .move false, .signal, .move false, .move false] waiting :=
    flushes.step (.move _ _ _ _ rfl rfl) |>.step (.move _ _ _ _ rfl rfl)
  have kept := wakeup_is_neither_lost_nor_premature early sample late (by simp) (by decide)
  refine ⟨_, _, _, _, _, early, sample, late, rfl, rfl, fun stuck => ?_⟩
  exact nomatch kept.1 1 rfl stuck .signal (by simp)

end Reader

end SoundDevices
