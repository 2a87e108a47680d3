import SoundDevices.Alsa.Script
import SoundDevices.CommandLine.Program
import SoundDevices.Config.OfJson
import SoundDevices.Inventory
import SoundDevices.Main
import SoundDevices.Proofs.Quiescence
import SoundDevices.Proofs.Shutdown
import SoundDevices.Proofs.StopHandshake
import SoundDevices.Proofs.SweepDevices
import SoundDevices.Proofs.SweepFailures
import SoundDevices.Proofs.Wakeups
import SoundDevices.Proofs.ProbeIsolation
import SoundDevices.Proofs.RecordCuts
import SoundDevices.Proofs.Notifications
import SoundDevices.Proofs.Interrupt
import SoundDevices.Proofs.SweepCharges
import SoundDevices.Proofs.LibraryFailures
import SoundDevices.Proofs.QueueOverflow
import SoundDevices.Proofs.ProbeLayout
import SoundDevices.Proofs.ProbeFailures
import SoundDevices.Proofs.LayoutDetection
import SoundDevices.Proofs.ProbeRates
import SoundDevices.Proofs.ReadBoundaries
import SoundDevices.Proofs.RecordOffsets
import SoundDevices.Proofs.CursorUses
import SoundDevices.Proofs.SnapshotPushes
import SoundDevices.Proofs.DeviceOpening
import SoundDevices.Proofs.HardwarePaths
import SoundDevices.Proofs.OutputMentions
import SoundDevices.Proofs.ExcludedNames
import SoundDevices.Proofs.ArgumentTokens
import SoundDevices.Proofs.SettingLayers
import SoundDevices.Proofs.WidestMap
