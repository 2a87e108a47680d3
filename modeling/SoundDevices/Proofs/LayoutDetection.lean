import Mathlib.Data.List.Perm.Subperm
import SoundDevices.Layout

set_option autoImplicit false

namespace SoundDevices

/-- Equally many roles and the same ones are a reordering, if one of the lists has no role twice. -/
theorem sameRoles_iff_perm {first second : List ChannelRole} (distinct : first.Nodup) :
    sameRoles first second = true ↔ second.Perm first := by
  simp only [sameRoles, Bool.and_eq_true, beq_iff_eq, List.all_eq_true, List.contains_iff_mem]
  constructor
  · rintro ⟨⟨length, has⟩, -⟩
    -- without repetitions, all of `first` is found at places of its own in `second`
    have within : first.Subperm second := List.subperm_of_subset distinct has
    exact (within.perm_of_length_le (Nat.le_of_eq length.symm)).symm
  · intro reordered
    refine ⟨⟨reordered.length_eq.symm, ?_⟩, ?_⟩
    · intro role member
      exact reordered.mem_iff.mpr member
    · intro role member
      exact reordered.mem_iff.mp member

namespace BuiltinLayout

theorem nodup_roles : ∀ layout ∈ table, layout.roles.Nodup := by decide

theorem invalid_notMem_roles : ∀ layout ∈ table, .invalid ∉ layout.roles := by decide

theorem length_roles_lt : ∀ layout ∈ table, layout.roles.length < maxChannels := by decide

/-- No two layouts of the table are reorderings of each other. -/
theorem eq_of_perm_roles :
    ∀ first ∈ table, ∀ second ∈ table, first.roles.Perm second.roles → first = second := by
  decide +kernel

/-- No two layouts of the table have the same name. -/
theorem eq_of_name :
    ∀ first ∈ table, ∀ second ∈ table, first.name = second.name → first = second := by
  decide +kernel

variable {roles other : List ChannelRole} {layout : BuiltinLayout}

theorem of_find?_eq_some (found : find? roles = some layout) :
    layout ∈ table ∧ roles.Perm layout.roles := by
  have member := List.mem_of_find?_eq_some found
  have same := List.find?_some found
  exact ⟨member, (sameRoles_iff_perm (nodup_roles layout member)).mp same⟩

/-- The layout that is found first is the only one with these roles. -/
theorem find?_eq_some_iff :
    find? roles = some layout ↔ layout ∈ table ∧ roles.Perm layout.roles := by
  constructor
  · exact of_find?_eq_some
  · rintro ⟨member, reordered⟩
    have same := (sameRoles_iff_perm (nodup_roles layout member)).mpr reordered
    have some : (find? roles).isSome = true := List.find?_isSome.mpr ⟨layout, member, same⟩
    obtain ⟨first, found⟩ := Option.isSome_iff_exists.mp some
    obtain ⟨among, fits⟩ := of_find?_eq_some found
    rw [found, eq_of_perm_roles first among layout member (fits.symm.trans reordered)]

theorem detect_eq_some_iff {name : String} :
    detect roles = some name ↔
      ∃ layout ∈ table, layout.name = name ∧ roles.Perm layout.roles := by
  rw [detect, Option.map_eq_some_iff]
  constructor
  · rintro ⟨layout, found, named⟩
    obtain ⟨member, reordered⟩ := find?_eq_some_iff.mp found
    exact ⟨layout, member, named, reordered⟩
  · rintro ⟨layout, member, named, reordered⟩
    exact ⟨layout, find?_eq_some_iff.mpr ⟨member, reordered⟩, named⟩

theorem detect_congr (reordered : roles.Perm other) : detect roles = detect other := by
  apply Option.ext
  intro name
  rw [detect_eq_some_iff, detect_eq_some_iff]
  simp only [reordered.congr_left]

/-- Roles are not named if no layout has roles like them. -/
theorem detect_eq_none (unlike : ∀ layout ∈ table, ¬roles.Perm layout.roles) :
    detect roles = none := by
  rw [Option.eq_none_iff_forall_ne_some]
  intro name named
  obtain ⟨layout, member, -, reordered⟩ := detect_eq_some_iff.mp named
  exact unlike layout member reordered

theorem detect_of_not_nodup (repeats : ¬roles.Nodup) : detect roles = none := by
  apply detect_eq_none
  intro layout member reordered
  exact repeats (reordered.nodup_iff.mpr (nodup_roles layout member))

theorem detect_of_invalid_mem (invalid : .invalid ∈ roles) : detect roles = none := by
  apply detect_eq_none
  intro layout member reordered
  exact invalid_notMem_roles layout member (reordered.mem_iff.mp invalid)

theorem detect_of_maxChannels_le (long : maxChannels ≤ roles.length) : detect roles = none := by
  apply detect_eq_none
  intro layout member reordered
  have short := length_roles_lt layout member
  rw [← reordered.length_eq] at short
  omega

end BuiltinLayout

namespace ChannelLayout

open BuiltinLayout

/-- Roles past the limit do not count for the name, since with so many there is none. -/
theorem name_ofRoles (roles : List ChannelRole) : (ofRoles roles).name = detect roles := by
  rw [name, channels_ofRoles]
  by_cases short : roles.length ≤ maxChannels
  · rw [List.take_of_length_le short]
  · have long : maxChannels ≤ roles.length := by omega
    have kept : (roles.take maxChannels).length = maxChannels := List.length_take_of_le long
    rw [detect_of_maxChannels_le long, detect_of_maxChannels_le (Nat.le_of_eq kept.symm)]

theorem ofRoles_channels (layout : ChannelLayout) : ofRoles layout.channels = layout := by
  obtain ⟨channels, short⟩ := layout
  simp only [ofRoles, List.take_of_length_le short]

/-- Roles are called by the name of a builtin layout exactly if they are a reordering of its roles,
and there is at most one such layout. So their order does not matter, and neither a role that is
there twice nor an invalid one is ever among them. A layout of roles holds the first of them up to
the limit, has the name of all of them, and is made again from the channels that it holds. -/
theorem detect_finds_the_reorderings (roles : List ChannelRole) :
    (∀ name, detect roles = some name ↔
      ∃ layout ∈ table, layout.name = name ∧ roles.Perm layout.roles) ∧
    (∀ first ∈ table, ∀ second ∈ table,
      first.name = second.name ∨ roles.Perm first.roles ∧ roles.Perm second.roles →
        first = second) ∧
    (∀ other, roles.Perm other → detect roles = detect other) ∧
    (¬roles.Nodup ∨ .invalid ∈ roles → detect roles = none) ∧
    (ofRoles roles).channels = roles.take 24 ∧
    (ofRoles roles).name = detect roles ∧
    ofRoles (ofRoles roles).channels = ofRoles roles := by
  refine ⟨fun name => detect_eq_some_iff, ?_, fun other => detect_congr, ?_, rfl,
    name_ofRoles roles, ofRoles_channels _⟩
  · intro first isLayout second isLayoutToo alike
    rcases alike with named | ⟨reordered, reorderedToo⟩
    · exact eq_of_name first isLayout second isLayoutToo named
    · exact eq_of_perm_roles first isLayout second isLayoutToo (reordered.symm.trans reorderedToo)
  · intro unnamed
    rcases unnamed with repeats | invalid
    · exact detect_of_not_nodup repeats
    · exact detect_of_invalid_mem invalid

/-- A role that is there twice does not stand for the one that is missing. -/
example : (ofRoles [.frontRight, .frontLeft]).name = some "Stereo" ∧
    (ofRoles [.frontLeft, .frontLeft]).name = none := by
  decide

end ChannelLayout

end SoundDevices
