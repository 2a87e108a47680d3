import Mathlib.Data.List.Induction
import SoundDevices.Probe

set_option autoImplicit false

namespace SoundDevices

/-- The map stands in the list, is wider than all maps before it, and at least as wide as all maps
after it. -/
def IsFirstWidest (maps : List ChannelMap) (map : ChannelMap) : Prop :=
  ∃ before after, maps = before ++ map :: after ∧
    (∀ earlier ∈ before, earlier.length < map.length) ∧
    ∀ later ∈ after, later.length ≤ map.length

namespace IsFirstWidest

variable {maps more : List ChannelMap} {map : ChannelMap}

theorem length_le (widest : IsFirstWidest maps map) :
    ∀ other ∈ maps, other.length ≤ map.length := by
  obtain ⟨before, after, rfl, wider, wide⟩ := widest
  intro other member
  rcases List.mem_append.mp member with earlier | rest
  · exact Nat.le_of_lt (wider other earlier)
  · rcases List.mem_cons.mp rest with rfl | later
    · exact Nat.le_refl _
    · exact wide other later

theorem mem (widest : IsFirstWidest maps map) : map ∈ maps := by
  obtain ⟨before, after, rfl, -, -⟩ := widest
  simp

/-- Maps that are no wider, put behind, change nothing. -/
theorem append (widest : IsFirstWidest maps map)
    (narrow : ∀ later ∈ more, later.length ≤ map.length) : IsFirstWidest (maps ++ more) map := by
  obtain ⟨before, after, rfl, wider, wide⟩ := widest
  refine ⟨before, after ++ more, by simp, wider, ?_⟩
  intro later member
  rcases List.mem_append.mp member with among | behind
  · exact wide later among
  · exact narrow later behind

/-- Behind maps that are all narrower the first of the widest maps stays it. -/
theorem append_of_lt (widest : IsFirstWidest more map)
    (narrower : ∀ earlier ∈ maps, earlier.length < map.length) :
    IsFirstWidest (maps ++ more) map := by
  obtain ⟨before, after, rfl, wider, wide⟩ := widest
  refine ⟨maps ++ before, after, by simp, ?_, wide⟩
  intro earlier member
  rcases List.mem_append.mp member with ahead | among
  · exact narrower earlier ahead
  · exact wider earlier among

theorem singleton (map : ChannelMap) : IsFirstWidest [map] map := ⟨[], [], rfl, nofun, nofun⟩

end IsFirstWidest

/-- The best map of a list is the first of its widest; only an empty list has none. -/
theorem bestMap_spec (maps : List ChannelMap) :
    match bestMap maps with
    | none => maps = []
    | some map => IsFirstWidest maps map := by
  -- from the end of the list, as its fold meets the maps
  induction maps using List.reverseRecOn with
  | nil => rfl
  | append_singleton maps last ih =>
    rw [bestMap_concat]
    cases best : bestMap maps with
    | none =>
      rw [best] at ih
      obtain rfl : maps = [] := ih
      exact .singleton last
    | some held =>
      rw [best] at ih
      by_cases narrow : last.length ≤ held.length
      · simp only [widerMap, narrow, ↓reduceIte]
        exact ih.append (List.forall_mem_singleton.mpr narrow)
      · have wider : held.length < last.length := Nat.lt_of_not_le narrow
        simp only [widerMap, narrow, ↓reduceIte]
        exact IsFirstWidest.append_of_lt (.singleton last)
          fun other member => Nat.lt_of_le_of_lt (ih.length_le other member) wider

namespace Device

/-- A list of maps that is not empty lays a device out by the first of its widest. -/
theorem exists_layout_withBestMap (device : Device) {maps : List ChannelMap} (some : maps ≠ []) :
    ∃ map, IsFirstWidest maps map ∧ (device.withBestMap maps).layout = .ofRoles map := by
  have spec := bestMap_spec maps
  cases best : bestMap maps with
  | none =>
    rw [best] at spec
    exact absurd spec some
  | some map =>
    rw [best] at spec
    exact ⟨map, spec, by simp only [withBestMap, best]⟩

/-- What lays out a device that was opened. Known maps come first, then the map in use, then the
maps on offer, and with none of them the layout stays. Only that nothing is known, and not that a
list of nothing is, lets the maps on offer count. -/
structure LaidOut (device : Device) (caps : PcmCaps) (known : Option (List ChannelMap))
    (layout : ChannelLayout) : Prop where
  ofKnown : ∀ maps, known = some maps → maps ≠ [] →
    ∃ map, IsFirstWidest maps map ∧ layout = .ofRoles map
  ofCurrent : known.getD [] = [] → ∀ map, caps.currentMap = some map → layout = .ofRoles map
  ofOffered : known = none → caps.currentMap = none → caps.offeredMaps ≠ [] →
    ∃ map, IsFirstWidest caps.offeredMaps map ∧ layout = .ofRoles map
  kept : known = none → caps.currentMap = none → caps.offeredMaps = [] →
    layout = device.layout
  keptByEmptyList : known = some [] → caps.currentMap = none → layout = device.layout

theorem laidOut_withMaps (device : Device) (caps : PcmCaps) (known : Option (List ChannelMap)) :
    device.LaidOut caps known (device.withMaps caps known).layout where
  ofKnown := by
    rintro maps rfl some
    unfold withMaps
    cases caps.currentMap with
    | none => exact device.exists_layout_withBestMap some
    | some current =>
      exact exists_layout_withBestMap { device with layout := .ofRoles current } some
  ofCurrent := by
    intro unknown map current
    unfold withMaps
    rw [current]
    cases known with
    | none => rfl
    | some maps =>
      obtain rfl : maps = [] := unknown
      rfl
  ofOffered := by
    rintro rfl unused some
    unfold withMaps
    rw [unused]
    exact device.exists_layout_withBestMap some
  kept := by
    rintro rfl unused nothing
    unfold withMaps
    rw [unused, nothing]
    rfl
  keptByEmptyList := by
    rintro rfl unused
    unfold withMaps
    rw [unused]
    rfl

end Device

/-- The probe of a device that opens succeeds, and lays the device out by what was told of it. -/
theorem probe_lays_out {system : SoundSystem} {device : Device} {caps : PcmCaps}
    (known : Option (List ChannelMap)) (preferred : UInt32)
    (opens : system.openPcm device.name device.purpose = .ok caps) :
    ∃ after, (probe system device known preferred).result = .ok (after, none) ∧
      device.LaidOut caps known after.layout := by
  refine ⟨(device.withMaps caps known).withRates (.ofBounds caps.rateMin caps.rateMax) preferred,
    ?_, device.laidOut_withMaps caps known⟩
  rw [probe_eq, opens]
  rfl

/-- A system on which every device opens and tells the same. -/
def SoundSystem.telling (caps : PcmCaps) : SoundSystem :=
  { SoundSystem.silent with openPcm := fun _ _ => .ok caps }

def Device.unopened : Device where
  name := "hw:0,0"
  description := "Card"
  purpose := .output
  isRaw := false

/-- An empty list of known maps leaves the map in use as it is. -/
theorem probe_lays_out_by_map_in_use :
    let stereo : ChannelMap := [.frontLeft, .frontRight]
    let system := SoundSystem.telling ⟨some stereo, [], .exact 8000, .exact 96000⟩
    ∃ after, (probe system .unopened (some []) 48000).result = .ok (after, none) ∧
      after.layout = .ofRoles stereo := by
  intro stereo system
  have opens : system.openPcm Device.unopened.name Device.unopened.purpose =
      .ok ⟨some stereo, [], .exact 8000, .exact 96000⟩ := rfl
  obtain ⟨after, succeeds, laidOut⟩ := probe_lays_out (some []) 48000 opens
  exact ⟨after, succeeds, laidOut.ofCurrent rfl stereo rfl⟩

/-- An empty list of known maps is not like none: it hides the maps on offer. -/
theorem empty_known_maps_hide_maps_on_offer :
    ¬ ∀ (system : SoundSystem) (device after : Device) (caps : PcmCaps)
        (known : Option (List ChannelMap)) (preferred : UInt32),
      system.openPcm device.name device.purpose = .ok caps →
      (probe system device known preferred).result = .ok (after, none) →
      known.getD [] = [] → caps.currentMap = none → caps.offeredMaps ≠ [] →
        ∃ map, IsFirstWidest caps.offeredMaps map ∧ after.layout = .ofRoles map := by
  intro precedence
  let caps : PcmCaps := ⟨none, [[.frontCenter]], .exact 8000, .exact 192000⟩
  let after := (Device.unopened.probed (.ok caps) (some []) 48000).1
  obtain ⟨map, ⟨before, rest, split, -, -⟩, laidOut⟩ :=
    precedence (.telling caps) .unopened after caps (some []) 48000 rfl rfl rfl rfl (by decide)
  have offered : map ∈ caps.offeredMaps := by
    rw [split]
    exact List.mem_append_right _ List.mem_cons_self
  obtain rfl := List.mem_singleton.mp offered
  have unlike : ChannelLayout.empty ≠ .ofRoles [.frontCenter] := by decide
  exact unlike laidOut

end SoundDevices
