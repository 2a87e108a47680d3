import SoundDevices.Proofs.ProbeLayout

set_option autoImplicit false

namespace SoundDevices

/-- The map at this place is wider than all before it, and none after it is wider. -/
def IsFirstWidestAt (maps : List ChannelMap) (i : Nat) : Prop :=
  ∃ map, maps[i]? = some map ∧ (∀ earlier ∈ maps.take i, earlier.length < map.length) ∧
    ∀ later ∈ maps.drop (i + 1), later.length ≤ map.length

namespace IsFirstWidestAt

variable {maps : List ChannelMap} {i j : Nat}

theorem exists_isFirstWidest (place : IsFirstWidestAt maps i) :
    ∃ map, maps[i]? = some map ∧ IsFirstWidest maps map := by
  obtain ⟨map, found, wider, wide⟩ := place
  obtain ⟨within, rfl⟩ := List.getElem?_eq_some_iff.mp found
  refine ⟨maps[i], found, maps.take i, maps.drop (i + 1), ?_, wider, wide⟩
  rw [List.getElem_cons_drop, List.take_append_drop]

theorem not_lt (first : IsFirstWidestAt maps i) (second : IsFirstWidestAt maps j) : ¬i < j := by
  intro before
  obtain ⟨map, found, -, wide⟩ := first
  obtain ⟨other, foundOther, wider, -⟩ := second
  have earlier : map ∈ maps.take j := by
    rw [← List.getElem?_take_of_lt before] at found
    exact List.mem_of_getElem? found
  have later : other ∈ maps.drop (i + 1) := by
    have place : i + 1 + (j - (i + 1)) = j := by omega
    rw [← place, ← List.getElem?_drop] at foundOther
    exact List.mem_of_getElem? foundOther
  exact absurd (wider map earlier) (Nat.not_lt.mpr (wide other later))

theorem unique (first : IsFirstWidestAt maps i) (second : IsFirstWidestAt maps j) : i = j :=
  Nat.le_antisymm (Nat.not_lt.mp (second.not_lt first)) (Nat.not_lt.mp (first.not_lt second))

end IsFirstWidestAt

theorem IsFirstWidest.exists_place {maps : List ChannelMap} {map : ChannelMap}
    (widest : IsFirstWidest maps map) : ∃ i, maps[i]? = some map ∧ IsFirstWidestAt maps i := by
  obtain ⟨before, after, rfl, wider, wide⟩ := widest
  have found : (before ++ map :: after)[before.length]? = some map := by simp
  exact ⟨before.length, found, map, found, by simpa using wider, by simpa using wide⟩

theorem bestMap_eq_none_iff (maps : List ChannelMap) : bestMap maps = none ↔ maps = [] := by
  constructor
  · intro nothing
    have spec := bestMap_spec maps
    rwa [nothing] at spec
  · rintro rfl
    rfl

theorem bestMap_eq_some_iff (maps : List ChannelMap) (map : ChannelMap) :
    bestMap maps = some map ↔ IsFirstWidest maps map := by
  have spec := bestMap_spec maps
  constructor
  · intro best
    rwa [best] at spec
  · intro widest
    cases best : bestMap maps with
    | none =>
      have member := widest.mem
      rw [(bestMap_eq_none_iff maps).mp best] at member
      exact nomatch member
    | some held =>
      rw [best] at spec
      obtain ⟨i, found, place⟩ := widest.exists_place
      obtain ⟨j, foundHeld, placeHeld⟩ := IsFirstWidest.exists_place spec
      rw [place.unique placeHeld, foundHeld] at found
      exact found

theorem IsFirstWidestAt.bestMap_eq {maps : List ChannelMap} {i : Nat}
    (place : IsFirstWidestAt maps i) : bestMap maps = maps[i]? := by
  obtain ⟨map, found, widest⟩ := place.exists_isFirstWidest
  rw [found, bestMap_eq_some_iff]
  exact widest

theorem exists_isFirstWidest {maps : List ChannelMap} (nonempty : maps ≠ []) :
    ∃ map, bestMap maps = some map ∧ IsFirstWidest maps map := by
  cases best : bestMap maps with
  | none => exact absurd ((bestMap_eq_none_iff maps).mp best) nonempty
  | some map => exact ⟨map, rfl, (bestMap_eq_some_iff maps map).mp best⟩

theorem existsUnique_isFirstWidestAt {maps : List ChannelMap} (nonempty : maps ≠ []) :
    ∃! i, IsFirstWidestAt maps i := by
  obtain ⟨map, -, widest⟩ := exists_isFirstWidest nonempty
  obtain ⟨i, -, place⟩ := widest.exists_place
  exact ⟨i, place, fun j other => other.unique place⟩

def widthOf (best : Option ChannelMap) : Nat := (best.map List.length).getD 0

theorem bestMap_append (maps more : List ChannelMap) :
    bestMap (maps ++ more) =
      if maps = [] ∨ widthOf (bestMap maps) < widthOf (bestMap more) then bestMap more
      else bestMap maps := by
  by_cases empty : maps = []
  · rw [if_pos (Or.inl empty), empty, List.nil_append]
  obtain ⟨held, bestHeld, widestHeld⟩ := exists_isFirstWidest empty
  by_cases nothing : more = []
  · rw [nothing, List.append_nil, if_neg]
    simp [empty, widthOf]
  obtain ⟨other, bestOther, widestOther⟩ := exists_isFirstWidest nothing
  rw [bestHeld, bestOther]
  simp only [empty, widthOf, Option.map_some, Option.getD_some, false_or]
  by_cases wider : held.length < other.length
  · rw [if_pos wider, bestMap_eq_some_iff]
    exact widestOther.append_of_lt fun earlier member =>
      Nat.lt_of_le_of_lt (widestHeld.length_le earlier member) wider
  · rw [if_neg wider, bestMap_eq_some_iff]
    exact widestHeld.append fun later member =>
      Nat.le_trans (widestOther.length_le later member) (Nat.not_lt.mp wider)

/-- The list that a probe chooses from: the maps known of the hardware, or else those on offer, if
the device opens and has no map in use. -/
inductive ChoosesFrom : Option (List ChannelMap) → Except Error PcmCaps → List ChannelMap → Prop
  | known (answer : Except Error PcmCaps) (maps : List ChannelMap) :
      ChoosesFrom (some maps) answer maps
  | offered (caps : PcmCaps) (unused : caps.currentMap = none) :
      ChoosesFrom none (.ok caps) caps.offeredMaps

theorem ChoosesFrom.exists_layout {known : Option (List ChannelMap)}
    {answer : Except Error PcmCaps} {maps : List ChannelMap}
    (chooses : ChoosesFrom known answer maps) (nonempty : maps ≠ []) (device : Device)
    (preferred : UInt32) :
    ∃ map, IsFirstWidest maps map ∧
      (device.probed answer known preferred).1.layout = .ofRoles map := by
  cases chooses with
  | known =>
    cases answer with
    | error failure => exact device.exists_layout_withBestMap nonempty
    | ok caps => exact (device.laidOut_withMaps caps _).ofKnown maps rfl nonempty
  | offered caps unused => exact (device.laidOut_withMaps caps none).ofOffered rfl unused nonempty

/-- However maps are ordered, the first of the widest of them has the greatest width. -/
theorem IsFirstWidest.max?_eq {maps ordered : List ChannelMap} {map : ChannelMap}
    (widest : IsFirstWidest ordered map) (perm : ordered.Perm maps) :
    (maps.map List.length).max? = some map.length := by
  rw [List.max?_eq_some_iff]
  constructor
  · exact List.mem_map_of_mem (perm.mem_iff.mp widest.mem)
  · intro width member
    obtain ⟨other, among, rfl⟩ := List.mem_map.mp member
    exact widest.length_le other (perm.mem_iff.mpr among)

/-- How one of some channel maps is chosen, and what a probe makes of it. -/
structure ChoosesWidest (maps : List ChannelMap) : Prop where
  nothing : bestMap maps = none ↔ maps = []
  place : maps ≠ [] → ∃! i, IsFirstWidestAt maps i
  best : ∀ i, IsFirstWidestAt maps i → bestMap maps = maps[i]?
  append : ∀ more, bestMap (maps ++ more) =
    if maps = [] ∨ widthOf (bestMap maps) < widthOf (bestMap more) then bestMap more
    else bestMap maps
  layout : ∀ (system : SoundSystem) (device : Device) (known : Option (List ChannelMap))
    (preferred : UInt32) (ordered : List ChannelMap), maps ≠ [] → ordered.Perm maps →
    ChoosesFrom known (system.openPcm device.name device.purpose) ordered →
    ∃ after failure width, (probe system device known preferred).result = .ok (after, failure) ∧
      (maps.map List.length).max? = some width ∧ after.layout.count = min maxChannels width

/-- Of channel maps the first of the widest is chosen. -/
theorem choice_is_first_widest (maps : List ChannelMap) : ChoosesWidest maps := by
  constructor
  case nothing => exact bestMap_eq_none_iff maps
  case place => exact existsUnique_isFirstWidestAt
  case best => exact fun i place => place.bestMap_eq
  case append => exact bestMap_append maps
  case layout =>
    intro system device known preferred ordered nonempty perm chooses
    have reordered : ordered ≠ [] := fun empty => nonempty (List.perm_nil.mp (empty ▸ perm.symm))
    obtain ⟨map, widest, laidOut⟩ := chooses.exists_layout reordered device preferred
    have count := congrArg ChannelLayout.count laidOut
    rw [ChannelLayout.count_ofRoles] at count
    exact ⟨_, _, map.length, rfl, widest.max?_eq perm, count⟩

/-- Of two maps that are equally wide the first is chosen. A map that is wider than a layout can be
fills it, also where it is not the first on offer. -/
theorem choice_is_first_widest_at_tie :
    bestMap [[.lfe], [.frontLeft, .frontRight], [.sideLeft, .sideRight]] =
        some [.frontLeft, .frontRight] ∧
      ∃ after failure, (probe (.telling ⟨none, [[.lfe], List.replicate 30 .frontLeft],
          .exact 8000, .exact 96000⟩) .unopened none 48000).result = .ok (after, failure) ∧
        after.layout.count = 24 := by
  have tie : IsFirstWidestAt [[.lfe], [.frontLeft, .frontRight], [.sideLeft, .sideRight]] 1 :=
    ⟨[.frontLeft, .frontRight], rfl, by decide, by decide⟩
  refine ⟨(choice_is_first_widest _).best 1 tie, ?_⟩
  obtain ⟨after, failure, width, probed, widest, count⟩ :=
    (choice_is_first_widest [List.replicate 30 .frontLeft, [.lfe]]).layout
      (.telling ⟨none, [[.lfe], List.replicate 30 .frontLeft], .exact 8000, .exact 96000⟩)
      .unopened none 48000 _ (by decide) (.swap _ _ _) (.offered _ rfl)
  obtain rfl : width = 30 := (Option.some.inj widest).symm
  exact ⟨after, failure, probed, count⟩

end SoundDevices
