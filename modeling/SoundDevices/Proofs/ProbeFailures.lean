import SoundDevices.Proofs.ProbeLayout
import SoundDevices.Proofs.SweepDevices

set_option autoImplicit false

namespace SoundDevices

/-- What the maps known of the hardware make of a layout: that of the first of the widest of them,
and no other if there are none. -/
structure LaidOutByKnown (known : Option (List ChannelMap)) (before after : ChannelLayout) :
    Prop where
  widest : ∀ maps, known = some maps → maps ≠ [] →
    ∃ map, IsFirstWidest maps map ∧ after = .ofRoles map
  kept : known.getD [] = [] → after = before

namespace Device

theorem laidOutByKnown_withKnownMaps (device : Device) (known : Option (List ChannelMap)) :
    LaidOutByKnown known device.layout (device.withKnownMaps known).layout where
  widest := by
    rintro maps rfl some
    exact device.exists_layout_withBestMap some
  kept := by
    intro unknown
    cases known with
    | none => rfl
    | some maps =>
      obtain rfl : maps = [] := unknown
      rfl

/-- What a probe never touches. -/
structure SameLabels (device after : Device) : Prop where
  name : after.name = device.name
  description : after.description = device.description
  purpose : after.purpose = device.purpose
  isRaw : after.isRaw = device.isRaw
  probeError : after.probeError = device.probeError

theorem sameLabels_withKnownMaps (device : Device) (known : Option (List ChannelMap)) :
    device.SameLabels (device.withKnownMaps known) := by
  obtain ⟨layout, same⟩ := device.withKnownMaps_eq known
  rw [same]
  exact ⟨rfl, rfl, rfl, rfl, rfl⟩

theorem sameLabels_probed (device : Device) (answer : Except Error PcmCaps)
    (known : Option (List ChannelMap)) (preferred : UInt32) :
    device.SameLabels (device.probed answer known preferred).1 := by
  cases answer with
  | error failure => exact device.sameLabels_withKnownMaps known
  | ok caps =>
    obtain ⟨layout, same⟩ := device.withMaps_eq caps known
    rw [probed, same]
    exact ⟨rfl, rfl, rfl, rfl, rfl⟩

/-- A probe tells a failure exactly if the device did not open, and tells that one. -/
theorem probed_snd_eq_some_iff (device : Device) (answer : Except Error PcmCaps)
    (known : Option (List ChannelMap)) (preferred : UInt32) (failure : Error) :
    (device.probed answer known preferred).2 = some failure ↔ answer = .error failure := by
  cases answer with
  | error other => simp [probed]
  | ok caps => simp [probed]

/-- What a failed probe leaves. -/
structure KeptUnopened (device : Device) (known : Option (List ChannelMap)) (after : Device) :
    Prop where
  rateMin : after.rateMin = device.rateMin
  rateMax : after.rateMax = device.rateMax
  rateDefault : after.rateDefault = device.rateDefault
  layout : LaidOutByKnown known device.layout after.layout

theorem keptUnopened_withKnownMaps (device : Device) (known : Option (List ChannelMap)) :
    device.KeptUnopened known (device.withKnownMaps known) := by
  have layout := device.laidOutByKnown_withKnownMaps known
  obtain ⟨_, same⟩ := device.withKnownMaps_eq known
  exact ⟨by rw [same], by rw [same], by rw [same], layout⟩

end Device

namespace Sweep

/-- What a sweep reports of a device that did not open. -/
structure ReportsUnopened (system : SoundSystem) (purpose : Purpose) (failure : Error)
    (device : Device) : Prop where
  probeError : device.probeError = some failure
  rateMin : device.rateMin = 0
  rateMax : device.rateMax = 0
  rateDefault : device.rateDefault = 0
  isProbed : device.isProbed = false
  named : device.isRaw = false → device.layout = .empty
  raw : device.isRaw = true → ∃ card pcm, device.name = rawName card pcm ∧
    LaidOutByKnown (system.hwChannelMaps card pcm purpose) .empty device.layout

/-- A device of which nothing was known before it failed to open. -/
theorem reportsUnopened_of_blank {system : SoundSystem} {purpose : Purpose} {failure : Error}
    {blank : Device} {known : Option (List ChannelMap)}
    (rates : blank.rateMin = 0 ∧ blank.rateMax = 0 ∧ blank.rateDefault = 0)
    (layout : blank.layout = .empty) (named : blank.isRaw = false → known = none)
    (raw : blank.isRaw = true → ∃ card pcm, blank.name = rawName card pcm ∧
      known = system.hwChannelMaps card pcm purpose) :
    ReportsUnopened system purpose failure
      { blank.withKnownMaps known with probeError := some failure } := by
  have labels := blank.sameLabels_withKnownMaps known
  have kept := blank.keptUnopened_withKnownMaps known
  have laidOut := kept.layout
  rw [layout] at laidOut
  refine ⟨rfl, kept.rateMin.trans rates.1, kept.rateMax.trans rates.2.1,
    kept.rateDefault.trans rates.2.2, Device.isProbed_of_probeError _ failure rfl, ?_, ?_⟩
  · intro own
    apply laidOut.kept
    rw [named (labels.isRaw.symm.trans own)]
    rfl
  · intro own
    obtain ⟨card, pcm, path, rfl⟩ := raw (labels.isRaw.symm.trans own)
    exact ⟨card, pcm, labels.name.trans path, laidOut⟩

theorem Finds.reportsUnopened {system : SoundSystem} {preferred : UInt32} {purpose : Purpose}
    {device : Device} (finds : Finds system preferred purpose device) {failure : Error}
    (failed : system.openPcm device.name purpose = .error failure) :
    ReportsUnopened system purpose failure device := by
  cases finds with
  | named name description =>
    rw [Device.name_opened] at failed
    rw [failed, Device.opened_error]
    exact reportsUnopened_of_blank ⟨rfl, rfl, rfl⟩ rfl (fun _ => rfl) nofun
  | raw card pcm description =>
    rw [Device.name_opened] at failed
    rw [failed, Device.opened_error]
    exact reportsUnopened_of_blank ⟨rfl, rfl, rfl⟩ rfl nofun fun _ => ⟨card, pcm, rfl, rfl⟩

end Sweep

/-- A probe opens its device once, under its name and for its purpose, leaves its labels, and tells
the failure of the opening and no other. After a failure the device has the rates that it had, and
the layout that it had unless maps are known. So the devices of a sweep that did not open carry
their failure and no rates, and no layout but that of the maps known of their hardware. -/
theorem failed_probe_keeps_device (system : SoundSystem) (preferred : UInt32) :
    (∀ (device : Device) (known : Option (List ChannelMap)), ∃ after outcome,
      probe system device known preferred =
          ⟨[.openPcm device.purpose device.name], .ok (after, outcome)⟩ ∧
        device.SameLabels after ∧
        ∀ failure,
          (outcome = some failure ↔
            system.openPcm device.name device.purpose = .error failure) ∧
          (outcome = some failure → device.KeptUnopened known after)) ∧
    ∀ snapshot, enumerate system preferred = .ok snapshot →
      ∀ purpose, ∀ device ∈ snapshot.devices purpose, ∀ failure,
        system.openPcm device.name purpose = .error failure →
          Sweep.ReportsUnopened system purpose failure device := by
  constructor
  · intro device known
    have labels := device.sameLabels_probed (system.openPcm device.name device.purpose) known
      preferred
    refine ⟨_, _, probe_eq system device known preferred, labels, ?_⟩
    intro failure
    have failed := device.probed_snd_eq_some_iff
      (system.openPcm device.name device.purpose) known preferred failure
    refine ⟨failed, ?_⟩
    intro told
    rw [failed.mp told]
    exact device.keptUnopened_withKnownMaps known
  · intro snapshot found purpose device member failure failed
    exact (Sweep.finds_of_enumerate found member).reportsUnopened failed

/-- A card whose only output is in use, and can be mono or stereo. -/
def cardInUse : Inventory where
  cards := [
    { index := 0, name := "USB"
      pcms := [
        { device := 0
          output := { name := some "DAC"
                      maps := some [[.frontCenter], [.frontLeft, .frontRight]] } }] }]
  caps := [("hw:0,0", .error (.openingDevice "hw:0,0"))]

/-- The output of the card in use is reported with its failure and as stereo. -/
theorem failed_probe_keeps_device_in_use :
    ∃ snapshot, enumerate cardInUse.system 48000 = .ok snapshot ∧
      ∃ device ∈ snapshot.devices .output,
        device.layout = .ofRoles [.frontLeft, .frontRight] ∧
          Sweep.ReportsUnopened cardInUse.system .output (.openingDevice "hw:0,0") device := by
  let device : Device :=
    { name := "hw:0,0", description := "USB DAC", purpose := .output, isRaw := true
      layout := .ofRoles [.frontLeft, .frontRight]
      probeError := some (.openingDevice "hw:0,0") }
  let snapshot : Snapshot := { outputs := { devices := [device] } }
  have found : enumerate cardInUse.system 48000 = .ok snapshot := rfl
  have member : device ∈ snapshot.devices .output := List.mem_singleton.mpr rfl
  have failed : cardInUse.system.openPcm device.name .output =
      .error (.openingDevice "hw:0,0") := rfl
  have reports := (failed_probe_keeps_device cardInUse.system 48000).2
  exact ⟨snapshot, found, device, member, rfl,
    reports snapshot found .output device member _ failed⟩

end SoundDevices
