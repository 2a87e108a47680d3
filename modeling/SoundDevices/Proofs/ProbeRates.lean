import Mathlib.Algebra.Order.Archimedean.Real.Basic
import Mathlib.Algebra.Order.Floor.Ring
import Mathlib.Order.Bounds.Basic
import SoundDevices.Proofs.SweepDevices

set_option autoImplicit false

namespace SoundDevices

namespace RateBound

/-- The bound stands for this number: its rate, or one that lies just above or below it. -/
def StandsFor (bound : RateBound) (value : ℝ) : Prop :=
  if 0 < bound.direction then (bound.rate.toNat : ℝ) < value ∧ value < bound.rate.toNat + 1
  else if bound.direction < 0 then (bound.rate.toNat : ℝ) - 1 < value ∧ value < bound.rate.toNat
  else value = bound.rate.toNat

def IsAboveAll (bound : RateBound) : Prop := bound.rate = 4294967295 ∧ 0 < bound.direction

def IsBelowAll (bound : RateBound) : Prop := bound.rate = 0 ∧ bound.direction < 0

/-- A bound that lies above its rate has a rate above it, unless it lies above all. -/
theorem lt_size_of_not_isAboveAll {bound : RateBound} (above : 0 < bound.direction)
    (room : ¬bound.IsAboveAll) : bound.rate.toNat + 1 < UInt32.size := by
  have last : bound.rate.toNat ≠ 4294967295 := by
    intro last
    exact room ⟨UInt32.toNat_inj.mp last, above⟩
  have word := bound.rate.toNat_lt
  simp only [UInt32.size]
  omega

theorem toNat_pos_of_not_isBelowAll {bound : RateBound} (below : bound.direction < 0)
    (room : ¬bound.IsBelowAll) : 0 < bound.rate.toNat := by
  apply Nat.pos_of_ne_zero
  intro zero
  exact room ⟨UInt32.toNat_inj.mp zero, below⟩

/-- The least rate that a lower bound admits is the ceiling of what it stands for. -/
theorem ceil_eq_lowest {bound : RateBound} {low : ℝ} (stands : bound.StandsFor low)
    (room : ¬bound.IsAboveAll) : ⌈low⌉ = (bound.lowest.toNat : ℤ) := by
  rw [toNat_lowest, Int.ceil_eq_iff]
  unfold StandsFor at stands
  by_cases above : 0 < bound.direction
  · have next := lt_size_of_not_isAboveAll above room
    rw [if_pos above] at stands ⊢
    rw [Nat.min_eq_left (Nat.le_sub_one_of_lt next)]
    push_cast
    constructor
    · linarith only [stands.1]
    · exact stands.2.le
  · rw [if_neg above] at stands ⊢
    by_cases below : bound.direction < 0
    · rw [if_pos below] at stands
      exact ⟨stands.1, stands.2.le⟩
    · rw [if_neg below] at stands
      rw [stands]
      exact ⟨sub_one_lt _, le_rfl⟩

/-- The largest rate that an upper bound admits is the floor of what it stands for. -/
theorem floor_eq_highest {bound : RateBound} {high : ℝ} (stands : bound.StandsFor high)
    (room : ¬bound.IsBelowAll) : ⌊high⌋ = (bound.highest.toNat : ℤ) := by
  rw [toNat_highest, Int.floor_eq_iff]
  unfold StandsFor at stands
  by_cases above : 0 < bound.direction
  · rw [if_pos above] at stands
    rw [if_neg (Int32.lt_asymm above)]
    exact ⟨stands.1.le, stands.2⟩
  · rw [if_neg above] at stands
    by_cases below : bound.direction < 0
    · have next := toNat_pos_of_not_isBelowAll below room
      rw [if_pos below] at stands ⊢
      push_cast [Nat.cast_pred next]
      constructor
      · exact stands.1.le
      · linarith only [stands.2]
    · rw [if_neg below] at stands ⊢
      rw [stands]
      exact ⟨le_rfl, lt_add_one _⟩

end RateBound

def IsBetween (low high : ℝ) (rate : ℤ) : Prop := low ≤ rate ∧ (rate : ℝ) ≤ high

namespace RateRange

theorem contains_iff (range : RateRange) (rate : UInt32) :
    range.contains rate = true ↔ range.min.toNat ≤ rate.toNat ∧ rate.toNat ≤ range.max.toNat := by
  simp only [contains, Bool.and_eq_true, decide_eq_true_eq, UInt32.le_iff_toNat_le]

theorem choose_of_not_contains {range : RateRange} {preferred : UInt32}
    (outside : ¬range.contains preferred = true) : range.choose preferred = range.max :=
  if_neg outside

/-- A range that is not empty has the rate that it chooses. -/
theorem contains_choose {range : RateRange} (ordered : range.min.toNat ≤ range.max.toNat)
    (preferred : UInt32) : range.contains (range.choose preferred) = true := by
  by_cases inside : range.contains preferred = true
  · rw [choose_of_contains range preferred inside]
    exact inside
  · rw [choose_of_not_contains inside, contains_iff]
    exact ⟨ordered, Nat.le_refl _⟩

theorem choose_eq_preferred_iff {range : RateRange}
    (ordered : range.min.toNat ≤ range.max.toNat) (preferred : UInt32) :
    range.choose preferred = preferred ↔ range.contains preferred = true := by
  constructor
  · intro same
    rw [← same]
    exact contains_choose ordered preferred
  · exact choose_of_contains range preferred

/-- The range holds the whole rates between two numbers, and chooses from them. -/
structure IsExact (range : RateRange) (low high : ℝ) (preferred : UInt32) : Prop where
  contains : ∀ rate : UInt32, range.contains rate = true ↔ IsBetween low high rate.toNat
  chosenInside : (∃ rate, IsBetween low high rate) →
    range.min ≤ range.choose preferred ∧ range.choose preferred ≤ range.max
  chosenPreferred : (∃ rate, IsBetween low high rate) →
    (range.choose preferred = preferred ↔ IsBetween low high preferred.toNat)
  chosenLargest : (∃ rate, IsBetween low high rate) → ¬IsBetween low high preferred.toNat →
    IsGreatest {rate | IsBetween low high rate} (range.choose preferred).toNat
  empty : (¬∃ rate, IsBetween low high rate) →
    range.max < range.min ∧ range.choose preferred = range.max

variable {range : RateRange} {low high : ℝ}

section

variable (ceil : ⌈low⌉ = (range.min.toNat : ℤ)) (floor : ⌊high⌋ = (range.max.toNat : ℤ))

include ceil floor

theorem isBetween_iff (rate : ℤ) :
    IsBetween low high rate ↔ (range.min.toNat : ℤ) ≤ rate ∧ rate ≤ range.max.toNat := by
  rw [← ceil, ← floor, Int.ceil_le, Int.le_floor]
  exact Iff.rfl

theorem contains_iff_isBetween (rate : UInt32) :
    range.contains rate = true ↔ IsBetween low high rate.toNat := by
  rw [contains_iff, isBetween_iff ceil floor]
  omega

/-- There is a rate between the numbers if the ends of the range are in order. -/
theorem exists_isBetween_iff :
    (∃ rate, IsBetween low high rate) ↔ range.min.toNat ≤ range.max.toNat := by
  simp only [isBetween_iff ceil floor]
  constructor
  · rintro ⟨rate, lower, upper⟩
    omega
  · intro ordered
    exact ⟨range.min.toNat, le_rfl, Int.ofNat_le.mpr ordered⟩

/-- A range is exact if its ends are the ceiling and the floor of the two numbers. -/
theorem isExact_of_ceil_of_floor (preferred : UInt32) : range.IsExact low high preferred := by
  have contains := contains_iff_isBetween ceil floor
  have ordered := exists_isBetween_iff ceil floor
  refine ⟨contains, ?_, ?_, ?_, ?_⟩
  · intro some
    have chosen := contains_choose (ordered.mp some) preferred
    rw [contains_iff] at chosen
    exact ⟨UInt32.le_iff_toNat_le.mpr chosen.1, UInt32.le_iff_toNat_le.mpr chosen.2⟩
  · intro some
    rw [choose_eq_preferred_iff (ordered.mp some), contains]
  · intro some outside
    rw [← contains] at outside
    have chosen := contains_choose (ordered.mp some) preferred
    constructor
    · exact (contains _).mp chosen
    · intro rate stands
      rw [choose_of_not_contains outside]
      exact ((isBetween_iff ceil floor rate).mp stands).2
  · intro nothing
    rw [ordered] at nothing
    constructor
    · rw [UInt32.lt_iff_toNat_lt]
      omega
    · apply choose_of_not_contains
      rw [contains_iff]
      omega

end

theorem isExact_ofBounds {lower upper : RateBound} (lowStands : lower.StandsFor low)
    (highStands : upper.StandsFor high) (roomAbove : ¬lower.IsAboveAll)
    (roomBelow : ¬upper.IsBelowAll) (preferred : UInt32) :
    (ofBounds lower upper).IsExact low high preferred :=
  isExact_of_ceil_of_floor (RateBound.ceil_eq_lowest lowStands roomAbove)
    (RateBound.floor_eq_highest highStands roomBelow) preferred

/-- Nothing wraps: what is corrected moves inwards, or stays at the end of all rates. -/
theorem ofBounds_inwards (lower upper : RateBound) :
    lower.rate ≤ (ofBounds lower upper).min ∧ (ofBounds lower upper).max ≤ upper.rate := by
  have word := lower.rate.toNat_lt
  rw [UInt32.le_iff_toNat_le, UInt32.le_iff_toNat_le, ofBounds, RateBound.toNat_lowest,
    RateBound.toNat_highest]
  constructor
  · split
    · simp only [UInt32.size]
      omega
    · exact Nat.le_refl _
  · split
    · exact Nat.sub_le _ _
    · exact Nat.le_refl _

end RateRange

/-- A device found carries the corrected range of what it told when it was opened. -/
theorem Sweep.Finds.rates {system : SoundSystem} {preferred : UInt32} {purpose : Purpose}
    {device : Device} (finds : Finds system preferred purpose device) {caps : PcmCaps}
    (opens : system.openPcm device.name purpose = .ok caps) :
    let range := RateRange.ofBounds caps.rateMin caps.rateMax
    device.rateMin = range.min ∧ device.rateMax = range.max ∧
      device.rateDefault = range.choose preferred := by
  cases finds with
  | named | raw =>
    rw [Device.name_opened] at opens
    rw [opens, Device.opened_ok]
    exact ⟨rfl, rfl, rfl⟩

/-- The corrected range of two bounds holds the whole rates between the numbers that the bounds
stand for, and chooses the preferred rate or the largest of them; at the ends of all rates a bound
stays where it is. A device that a sweep has opened carries the ends of that range and its
choice. -/
theorem corrected_rates_are_exact (preferred : UInt32) :
    (∀ (lower upper : RateBound) (low high : ℝ), lower.StandsFor low → upper.StandsFor high →
      ¬lower.IsAboveAll → ¬upper.IsBelowAll →
        (RateRange.ofBounds lower upper).IsExact low high preferred) ∧
    (∀ lower upper : RateBound,
      (lower.IsAboveAll → (RateRange.ofBounds lower upper).min = 4294967295) ∧
      (upper.IsBelowAll → (RateRange.ofBounds lower upper).max = 0) ∧
      lower.rate ≤ (RateRange.ofBounds lower upper).min ∧
      (RateRange.ofBounds lower upper).max ≤ upper.rate) ∧
    ∀ system snapshot, enumerate system preferred = .ok snapshot →
      ∀ purpose, ∀ device ∈ snapshot.devices purpose, ∀ caps,
        system.openPcm device.name purpose = .ok caps →
          let range := RateRange.ofBounds caps.rateMin caps.rateMax
          device.rateMin = range.min ∧ device.rateMax = range.max ∧
            device.rateDefault = range.choose preferred := by
  refine ⟨?_, ?_, ?_⟩
  · intro lower upper low high lowStands highStands roomAbove roomBelow
    exact RateRange.isExact_ofBounds lowStands highStands roomAbove roomBelow preferred
  · intro lower upper
    obtain ⟨up, down⟩ := RateRange.ofBounds_inwards lower upper
    refine ⟨?_, ?_, up, down⟩
    · intro aboveAll
      have last : (4294967295 : UInt32).toNat = 4294967295 := rfl
      have word := (RateRange.ofBounds lower upper).min.toNat_lt
      rw [aboveAll.1, UInt32.le_iff_toNat_le] at up
      apply UInt32.toNat_inj.mp
      omega
    · intro belowAll
      rw [belowAll.1] at down
      exact UInt32.le_zero_iff.mp down
  · intro system snapshot found purpose device member caps opens
    exact (Sweep.finds_of_enumerate found member).rates opens

/-- A device that takes all rates above 4000 Hz and below the last one. -/
theorem corrected_rates_are_exact_between_open_bounds :
    ∃ low high : ℝ, RateBound.StandsFor ⟨4000, 1⟩ low ∧
      RateBound.StandsFor ⟨4294967295, -1⟩ high ∧
      RateRange.IsExact ⟨4001, 4294967294⟩ low high 4000 ∧
      IsGreatest {rate | IsBetween low high rate} 4294967294 := by
  have first : UInt32.toNat 4000 = 4000 := rfl
  have last : UInt32.toNat 4294967295 = 4294967295 := rfl
  have lowStands : RateBound.StandsFor ⟨4000, 1⟩ 4000.5 := by
    rw [RateBound.StandsFor, if_pos (by decide), first]
    norm_num
  have highStands : RateBound.StandsFor ⟨4294967295, -1⟩ 4294967294.5 := by
    rw [RateBound.StandsFor, if_neg (by decide), if_pos (by decide), last]
    norm_num
  have exact := (corrected_rates_are_exact 4000).1 _ _ _ _ lowStands highStands
    (by simp [RateBound.IsAboveAll]) (by simp [RateBound.IsBelowAll])
  have preferred : ¬IsBetween 4000.5 4294967294.5 4000 := by
    intro between
    have low := between.1
    norm_num at low
  have some : IsBetween 4000.5 4294967294.5 4001 := by
    constructor <;> norm_num
  exact ⟨_, _, lowStands, highStands, exact, exact.chosenLargest ⟨4001, some⟩ preferred⟩

end SoundDevices
