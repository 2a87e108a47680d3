import SoundDevices.Proofs.ProbeLayout

set_option autoImplicit false

namespace SoundDevices

/-- The first map of a list that no other is wider than. -/
def firstWidest? (maps : List ChannelMap) : Option ChannelMap :=
  maps.find? fun map => maps.all fun other => other.length ≤ map.length

theorem IsFirstWidest.firstWidest?_eq {maps : List ChannelMap} {map : ChannelMap}
    (widest : IsFirstWidest maps map) : firstWidest? maps = some map := by
  have most := widest.length_le
  have member := widest.mem
  obtain ⟨before, after, split, wider, -⟩ := widest
  rw [firstWidest?, List.find?_eq_some_iff_append]
  refine ⟨by simpa using most, before, after, split, ?_⟩
  intro earlier among
  have narrower := wider earlier among
  simp only [Bool.not_eq_true', List.all_eq_false, decide_eq_true_eq, Nat.not_le]
  exact ⟨map, member, narrower⟩

theorem bestMap_eq_firstWidest? (maps : List ChannelMap) : bestMap maps = firstWidest? maps := by
  have spec := bestMap_spec maps
  cases best : bestMap maps with
  | none =>
    rw [best] at spec
    rw [spec]
    rfl
  | some map =>
    rw [best] at spec
    exact spec.firstWidest?_eq.symm

namespace RateBound

theorem toNat_increase (rate : UInt32) :
    (increase rate).toNat = min (rate.toNat + 1) (UInt32.size - 1) := by
  have bound := rate.toNat_lt
  unfold increase
  split
  · next room =>
    rw [UInt32.toNat_add, UInt32.toNat_one, Nat.mod_eq_of_lt room]
    omega
  · next full =>
    simp only [UInt32.size] at full ⊢
    omega

theorem toNat_decrease (rate : UInt32) : (decrease rate).toNat = rate.toNat - 1 := by
  unfold decrease
  split
  · next room =>
    have one : 1 ≤ rate := by
      rw [UInt32.lt_iff_toNat_lt] at room
      rw [UInt32.le_iff_toNat_le]
      exact room
    rw [UInt32.toNat_sub_of_le rate 1 one, UInt32.toNat_one]
  · next none =>
    rw [UInt32.lt_iff_toNat_lt, UInt32.toNat_zero] at none
    omega

theorem toNat_lowest (bound : RateBound) :
    bound.lowest.toNat =
      if 0 < bound.direction then min (bound.rate.toNat + 1) (UInt32.size - 1)
      else bound.rate.toNat := by
  unfold lowest
  split
  · exact toNat_increase bound.rate
  · rfl

theorem toNat_highest (bound : RateBound) :
    bound.highest.toNat =
      if bound.direction < 0 then bound.rate.toNat - 1 else bound.rate.toNat := by
  unfold highest
  split
  · exact toNat_decrease bound.rate
  · rfl

theorem lowest_eq (bound : RateBound) :
    bound.lowest =
      if 0 < bound.direction then UInt32.ofNat (min (bound.rate.toNat + 1) 4294967295)
      else bound.rate := by
  apply UInt32.toNat_inj.mp
  rw [toNat_lowest]
  split
  · rw [UInt32.toNat_ofNat_of_lt' (by simp only [UInt32.size]; omega)]
    rfl
  · rfl

theorem highest_eq (bound : RateBound) :
    bound.highest =
      if bound.direction < 0 then UInt32.ofNat (bound.rate.toNat - 1) else bound.rate := by
  have word := bound.rate.toNat_lt
  apply UInt32.toNat_inj.mp
  rw [toNat_highest]
  split
  · rw [UInt32.toNat_ofNat_of_lt' (by simp only [UInt32.size]; omega)]
  · rfl

end RateBound

theorem RateRange.choose_eq (range : RateRange) (preferred : UInt32) :
    range.choose preferred =
      if range.min ≤ preferred ∧ preferred ≤ range.max then preferred else range.max := by
  simp only [choose, contains, Bool.and_eq_true, decide_eq_true_eq]

namespace Device

/-- The map that lays out a device once it was opened: the first of the widest of the maps known of
its hardware. If none is known, it is the map in use, or else the first of the widest on offer; that
a list of nothing is known hides the maps on offer. A device that did not open tells no map. -/
def layoutMap? (answer : Except Error PcmCaps) (known : Option (List ChannelMap)) :
    Option ChannelMap :=
  (firstWidest? (known.getD [])).or
    (match answer with
    | .error _ => none
    | .ok caps =>
      caps.currentMap.or (if known.isNone then firstWidest? caps.offeredMaps else none))

/-- A device with the outcome of one opening: the failure alone, or the rates and no failure. At
most 24 channels are kept. An open bound of the rates is moved inwards by one, as far as there are
rates, and the preferred rate is chosen if it lies between the two, else the largest. -/
def opened (device : Device) (answer : Except Error PcmCaps) (known : Option (List ChannelMap))
    (preferred : UInt32) : Device :=
  let layout : ChannelLayout :=
    match layoutMap? answer known with
    | none => device.layout
    | some map => ⟨map.take 24, List.length_take_le 24 map⟩
  match answer with
  | .error failure => { device with layout, probeError := some failure }
  | .ok caps =>
    let rateMin :=
      if 0 < caps.rateMin.direction then UInt32.ofNat (min (caps.rateMin.rate.toNat + 1) 4294967295)
      else caps.rateMin.rate
    let rateMax :=
      if caps.rateMax.direction < 0 then UInt32.ofNat (caps.rateMax.rate.toNat - 1)
      else caps.rateMax.rate
    let rateDefault := if rateMin ≤ preferred ∧ preferred ≤ rateMax then preferred else rateMax
    { device with layout, rateMin, rateMax, rateDefault }

def laidOutBy (device : Device) (map : Option ChannelMap) : Device :=
  match map with
  | none => device
  | some map => { device with layout := .ofRoles map }

theorem laidOutBy_laidOutBy (device : Device) (first second : Option ChannelMap) :
    (device.laidOutBy first).laidOutBy second = device.laidOutBy (second.or first) := by
  cases second with
  | none => rfl
  | some map => cases first <;> rfl

theorem withBestMap_eq_laidOutBy (device : Device) (maps : List ChannelMap) :
    device.withBestMap maps = device.laidOutBy (firstWidest? maps) := by
  rw [withBestMap, bestMap_eq_firstWidest?]
  cases firstWidest? maps <;> rfl

theorem withKnownMaps_eq_laidOutBy (device : Device) (known : Option (List ChannelMap)) :
    device.withKnownMaps known = device.laidOutBy (firstWidest? (known.getD [])) := by
  cases known with
  | none => rfl
  | some maps => exact device.withBestMap_eq_laidOutBy maps

theorem withMaps_eq_laidOutBy (device : Device) (caps : PcmCaps)
    (known : Option (List ChannelMap)) :
    device.withMaps caps known = device.laidOutBy (layoutMap? (.ok caps) known) := by
  rw [withMaps, layoutMap?]
  cases caps.currentMap with
  | some map =>
    have current : { device with layout := .ofRoles map } = device.laidOutBy (some map) := rfl
    dsimp only
    rw [current, withKnownMaps_eq_laidOutBy, laidOutBy_laidOutBy, Option.some_or]
  | none =>
    dsimp only
    rw [withBestMap_eq_laidOutBy, Option.none_or]
    cases known with
    | none => rfl
    | some maps => rw [Option.getD_some, Option.getD_some, Option.isNone_some, if_neg nofun,
        Option.or_none]

/-- A device laid out by a map differs in its layout alone. -/
theorem laidOutBy_eq (device : Device) (map : Option ChannelMap) :
    ∃ layout, device.laidOutBy map = { device with layout } := by
  cases map with
  | none => exact ⟨_, rfl⟩
  | some map => exact ⟨_, rfl⟩

theorem withKnownMaps_eq (device : Device) (known : Option (List ChannelMap)) :
    ∃ layout, device.withKnownMaps known = { device with layout } := by
  rw [withKnownMaps_eq_laidOutBy]
  exact device.laidOutBy_eq _

theorem withMaps_eq (device : Device) (caps : PcmCaps) (known : Option (List ChannelMap)) :
    ∃ layout, device.withMaps caps known = { device with layout } := by
  rw [withMaps_eq_laidOutBy]
  exact device.laidOutBy_eq _

/-- A probe makes of a device what its opening comes to. -/
theorem settled_probed (device : Device) (answer : Except Error PcmCaps)
    (known : Option (List ChannelMap)) (preferred : UInt32) :
    settled (device.probed answer known preferred) = device.opened answer known preferred := by
  cases answer with
  | error failure =>
    show { device.withKnownMaps known with probeError := some failure } = _
    rw [withKnownMaps_eq_laidOutBy, opened, layoutMap?, Option.or_none]
    cases firstWidest? (known.getD []) <;> rfl
  | ok caps =>
    show (device.withMaps caps known).withRates (.ofBounds caps.rateMin caps.rateMax) preferred = _
    rw [withMaps_eq_laidOutBy, withRates, RateRange.choose_eq, RateRange.ofBounds,
      RateBound.lowest_eq, RateBound.highest_eq, opened]
    cases layoutMap? (.ok caps) known <;> rfl

theorem opened_error (device : Device) (failure : Error) (known : Option (List ChannelMap))
    (preferred : UInt32) :
    device.opened (.error failure) known preferred =
      { device.withKnownMaps known with probeError := some failure } :=
  (device.settled_probed (.error failure) known preferred).symm

theorem opened_ok (device : Device) (caps : PcmCaps) (known : Option (List ChannelMap))
    (preferred : UInt32) :
    device.opened (.ok caps) known preferred =
      (device.withMaps caps known).withRates (.ofBounds caps.rateMin caps.rateMax) preferred :=
  (device.settled_probed (.ok caps) known preferred).symm

/-- What opening a device leaves as it is, and the failure it notes. -/
theorem opened_eq (device : Device) (answer : Except Error PcmCaps)
    (known : Option (List ChannelMap)) (preferred : UInt32) :
    ∃ layout rateMin rateMax rateDefault,
      device.opened answer known preferred =
        { device with
          layout, rateMin, rateMax, rateDefault
          probeError := match answer with
            | .error failure => some failure
            | .ok _ => device.probeError } := by
  cases answer with
  | error failure => exact ⟨_, device.rateMin, device.rateMax, device.rateDefault, rfl⟩
  | ok caps => exact ⟨_, _, _, _, rfl⟩

@[simp] theorem name_opened (device : Device) (answer : Except Error PcmCaps)
    (known : Option (List ChannelMap)) (preferred : UInt32) :
    (device.opened answer known preferred).name = device.name := by
  obtain ⟨layout, rateMin, rateMax, rateDefault, same⟩ := opened_eq device answer known preferred
  rw [same]

@[simp] theorem purpose_opened (device : Device) (answer : Except Error PcmCaps)
    (known : Option (List ChannelMap)) (preferred : UInt32) :
    (device.opened answer known preferred).purpose = device.purpose := by
  obtain ⟨layout, rateMin, rateMax, rateDefault, same⟩ := opened_eq device answer known preferred
  rw [same]

@[simp] theorem description_opened (device : Device) (answer : Except Error PcmCaps)
    (known : Option (List ChannelMap)) (preferred : UInt32) :
    (device.opened answer known preferred).description = device.description := by
  obtain ⟨layout, rateMin, rateMax, rateDefault, same⟩ := opened_eq device answer known preferred
  rw [same]

@[simp] theorem isRaw_opened (device : Device) (answer : Except Error PcmCaps)
    (known : Option (List ChannelMap)) (preferred : UInt32) :
    (device.opened answer known preferred).isRaw = device.isRaw := by
  obtain ⟨layout, rateMin, rateMax, rateDefault, same⟩ := opened_eq device answer known preferred
  rw [same]

/-- A device that carried no failure before its opening carries that of the opening. -/
theorem probeError_opened (device : Device) (answer : Except Error PcmCaps)
    (known : Option (List ChannelMap)) (preferred : UInt32) (clean : device.probeError = none)
    (failure : Error) :
    (device.opened answer known preferred).probeError = some failure ↔ answer = .error failure := by
  obtain ⟨layout, rateMin, rateMax, rateDefault, same⟩ := opened_eq device answer known preferred
  rw [same]
  cases answer <;> simp [clean]

end Device

end SoundDevices
