import SoundDevices.CommandLine.Program
import SoundDevices.Config.OfToml
import SoundDevices.Proofs.ArgumentTokens
import SoundDevices.Proofs.VariableTexts

set_option autoImplicit false

namespace SoundDevices

namespace Disk

theorem readText_eq_ok_iff (disk : Disk) (path text : String) :
    disk.readText path = .ok text ↔ disk.contents path = .ok (Text.encode text) := by
  rw [readText]
  cases disk.contents path with
  | error failure => simp
  | ok contents =>
    simp only [Except.ok.injEq, ← Text.decode?_eq_some_iff]
    cases Text.decode? contents <;> simp

end Disk

namespace AppConfig

/-- What the settings file of a disk holds, by the decoder: the file with the given path, or else
the default one, which may be missing. A default file that is there has to be read. -/
inductive IsOn (decode : Decoder) (disk : Disk) : Option String → AppConfig → Prop
  | named (path text : String) (app : AppConfig)
      (read : disk.contents path = .ok (Text.encode text)) (understood : decode text = .ok app) :
      IsOn decode disk (some path) app
  | found (text : String) (app : AppConfig) (present : disk.present "soundwatch.toml" = true)
      (read : disk.contents "soundwatch.toml" = .ok (Text.encode text))
      (understood : decode text = .ok app) : IsOn decode disk none app
  | missing (absent : disk.present "soundwatch.toml" = false) : IsOn decode disk none {}

variable (decode : Decoder) (disk : Disk)

theorem loadFrom_eq_ok_iff (shown path : String) (app : AppConfig) :
    loadFrom decode disk shown path = .ok app ↔
      ∃ text, disk.contents path = .ok (Text.encode text) ∧ decode text = .ok app := by
  simp only [← Disk.readText_eq_ok_iff, loadFrom]
  cases disk.readText path with
  | error failure => simp
  | ok text => cases understood : decode text <;> simp [understood, Except.mapError]

theorem load_eq_ok_iff (path : Option String) (app : AppConfig) :
    load decode disk path = .ok app ↔ IsOn decode disk path app := by
  constructor
  · intro loaded
    cases path with
    | some path =>
      obtain ⟨text, read, understood⟩ := (loadFrom_eq_ok_iff decode disk path path app).mp loaded
      exact .named path text app read understood
    | none =>
      rw [load] at loaded
      by_cases present : disk.present defaultFile = true
      · rw [if_pos present] at loaded
        obtain ⟨text, read, understood⟩ := (loadFrom_eq_ok_iff decode disk _ _ app).mp loaded
        exact .found text app present read understood
      · rw [if_neg present] at loaded
        obtain rfl := Except.ok.inj loaded
        exact .missing (Bool.eq_false_of_not_eq_true present)
  · intro isOn
    cases isOn with
    | named path text app read understood =>
      exact (loadFrom_eq_ok_iff decode disk path path app).mpr ⟨text, read, understood⟩
    | found text app present read understood =>
      have there : load decode disk none = loadFrom decode disk defaultFile defaultFile :=
        if_pos present
      rw [there]
      exact (loadFrom_eq_ok_iff decode disk _ _ app).mpr ⟨text, read, understood⟩
    | missing absent => exact if_neg (Bool.eq_false_iff.mp absent)

end AppConfig

namespace Environment

def without (env : Environment) (key : String) : Environment :=
  fun other => if other = key then none else env other

theorem without_of_ne (env : Environment) {key other : String} (different : other ≠ key) :
    env.without key other = env other := if_neg different

inductive IsHeeded : String → String → Prop
  | backend {text : String} {kind : BackendKind} (names : IsBackendText text kind) :
      IsHeeded "SOUNDWATCH_BACKEND" text
  | watchDir {text folder : String} (names : IsFolderText text folder) :
      IsHeeded "SOUNDWATCH_WATCH_DIR" text
  | preferredRate {text : String} {rate : UInt32} (spells : IsRateText text rate) :
      IsHeeded "SOUNDWATCH_SAMPLE_RATE" text

theorem IsHeeded.isAllBlank {key text : String} (heeded : IsHeeded key text) :
    Text.isAllBlank text.toList = false := by
  cases heeded with
  | backend names => exact names.isAllBlank
  | watchDir names => exact names.2
  | preferredRate spells => exact spells.isAllBlank

def IsSilent (env : Environment) (key : String) : Prop :=
  ∀ text, env key = some (Text.encode text) → ¬IsHeeded key text

theorem says_without_iff {α : Type} {env : Environment} {key other : String}
    {means : String → α → Prop} (silent : env.IsSilent key)
    (heeds : ∀ text value, means text value → IsHeeded other text) (value : α) :
    (env.without key).Says other means value ↔ env.Says other means value := by
  by_cases same : other = key
  · subst same
    constructor
    · rintro ⟨text, set, -⟩
      simp [without] at set
    · rintro ⟨text, set, meant⟩
      exact absurd (heeds text value meant) (silent text set)
  · simp only [Says, env.without_of_ne same]

end Environment

/-- A setting in two layers: what the upper one tells, or else what the lower one has. -/
structure Overlaid {α : Type} (tells : α → Prop) (lower result : α) : Prop where
  told : ∀ value, tells value → result = value
  silent : (∀ value, ¬tells value) → result = lower

namespace Overlaid

variable {α : Type} {tells : α → Prop} {lower result other : α}

theorem getD {answer : Option α} (answers : ∀ value, answer = some value ↔ tells value)
    (lower : α) : Overlaid tells lower (answer.getD lower) where
  told := by
    intro value told
    rw [(answers value).mpr told]
    rfl
  silent := by
    intro silent
    cases found : answer with
    | none => rfl
    | some value => exact absurd ((answers value).mp found) (silent value)

theorem unique (first : Overlaid tells lower result) (second : Overlaid tells lower other) :
    result = other := by
  by_cases told : ∃ value, tells value
  · obtain ⟨value, told⟩ := told
    rw [first.told value told, second.told value told]
  · have silent : ∀ value, ¬tells value := fun value tells => told ⟨value, tells⟩
    rw [first.silent silent, second.silent silent]

end Overlaid

namespace WatchConfig

variable (config : WatchConfig) (env : Environment)

theorem overlaid_backend :
    Overlaid (env.Says Environment.backendKey IsBackendText) config.backend
      (config.withEnvironment env).backend :=
  .getD env.backend_eq_some_iff config.backend

theorem overlaid_watchDir :
    Overlaid (env.Says Environment.watchDirKey IsFolderText) config.watchDir
      (config.withEnvironment env).watchDir :=
  .getD env.watchDir_eq_some_iff config.watchDir

theorem overlaid_preferredRate :
    Overlaid (env.Says Environment.sampleRateKey IsRateText) config.preferredRate
      (config.withEnvironment env).preferredRate :=
  .getD env.preferredRate_eq_some_iff config.preferredRate

/-- A variable that tells nothing might as well not be set. -/
theorem withEnvironment_without {key : String} (silent : env.IsSilent key) :
    config.withEnvironment (env.without key) = config.withEnvironment env := by
  have backend : ((env.without key).value? Environment.backendKey).bind BackendKind.parse? =
      (env.value? Environment.backendKey).bind BackendKind.parse? := by
    ext kind
    rw [Environment.backend_eq_some_iff, Environment.backend_eq_some_iff]
    exact Environment.says_without_iff silent (fun _ _ => .backend) kind
  have watchDir : (env.without key).value? Environment.watchDirKey =
      env.value? Environment.watchDirKey := by
    ext folder
    rw [Environment.watchDir_eq_some_iff, Environment.watchDir_eq_some_iff]
    exact Environment.says_without_iff silent (fun _ _ => .watchDir) folder
  have preferredRate : (((env.without key).value? Environment.sampleRateKey).bind fun text =>
      parseRate? (Text.trim text.toList)) =
      (env.value? Environment.sampleRateKey).bind fun text =>
        parseRate? (Text.trim text.toList) := by
    ext rate
    rw [Environment.preferredRate_eq_some_iff, Environment.preferredRate_eq_some_iff]
    exact Environment.says_without_iff silent (fun _ _ => .preferredRate) rate
  simp only [withEnvironment, backend, watchDir, preferredRate]

theorem withEnvironment_withEnvironment :
    (config.withEnvironment env).withEnvironment env = config.withEnvironment env := by
  have again {α : Type} (told : Option α) (value : α) :
      told.getD (told.getD value) = told.getD value := by
    cases told <;> rfl
  simp only [withEnvironment, again]

end WatchConfig

namespace Program

open OptionToken (spell)

/-- The settings that some tokens, a settings file and an environment come to: each of them on its
own. -/
structure FieldByField (tokens : List OptionToken) (app : AppConfig) (env : Environment)
    (settings : Settings) : Prop where
  dummy : .dummy ∈ tokens → settings.watch.backend = .dummy
  backend : .dummy ∉ tokens →
    Overlaid (env.Says "SOUNDWATCH_BACKEND" IsBackendText) app.watch.backend
      settings.watch.backend
  watchDir : Overlaid (env.Says "SOUNDWATCH_WATCH_DIR" IsFolderText) app.watch.watchDir
    settings.watch.watchDir
  preferredRate : Overlaid (env.Says "SOUNDWATCH_SAMPLE_RATE" IsRateText) app.watch.preferredRate
    settings.watch.preferredRate
  json : settings.json = true ↔ app.json = true ∨ .json ∈ tokens
  once : settings.once = true ↔ .once ∈ tokens

variable {tokens : List OptionToken} {app : AppConfig} {env : Environment}
  {settings others : Settings}

theorem fieldByField_layered (tokens : List OptionToken) (app : AppConfig) (env : Environment) :
    FieldByField tokens app env (layered (.asked tokens) app env) where
  dummy := fun given => by simp [layered, Options.asked, given]
  backend := by
    intro missing
    have backend : (layered (.asked tokens) app env).watch.backend =
        (app.watch.withEnvironment env).backend := by simp [layered, Options.asked, missing]
    rw [backend]
    exact app.watch.overlaid_backend env
  watchDir := app.watch.overlaid_watchDir env
  preferredRate := app.watch.overlaid_preferredRate env
  json := by simp [layered, Options.asked]
  once := by simp [layered, Options.asked]

/-- The layers leave no setting open. -/
theorem FieldByField.unique (first : FieldByField tokens app env settings)
    (second : FieldByField tokens app env others) : settings = others := by
  have backend : settings.watch.backend = others.watch.backend := by
    by_cases given : .dummy ∈ tokens
    · rw [first.dummy given, second.dummy given]
    · exact (first.backend given).unique (second.backend given)
  have watchDir := first.watchDir.unique second.watchDir
  have preferredRate := first.preferredRate.unique second.preferredRate
  have json : settings.json = others.json := Bool.eq_iff_iff.mpr (first.json.trans second.json.symm)
  have once : settings.once = others.once := Bool.eq_iff_iff.mpr (first.once.trans second.once.symm)
  obtain ⟨⟨_, _, _⟩, _, _⟩ := settings
  obtain ⟨⟨_, _, _⟩, _, _⟩ := others
  simp only at backend watchDir preferredRate json once
  rw [backend, watchDir, preferredRate, json, once]

theorem settings_eq_ok_iff (decode : AppConfig.Decoder) (call : Call) (settings : Settings) :
    Program.settings decode call = .ok settings ↔
      ∃ options app, Options.parse call.arguments = .ok options ∧
        AppConfig.load decode call.disk options.config = .ok app ∧
        layered options app call.env = settings := by
  rw [Program.settings]
  cases Options.parse call.arguments with
  | error failure => simp [Except.mapError, bind, Except.bind]
  | ok options =>
    cases loaded : AppConfig.load decode call.disk options.config with
    | error failure => simp [Except.mapError, bind, Except.bind, loaded]
    | ok app => simp [Except.mapError, bind, Except.bind, pure, Except.pure, loaded]

def Call.unsetting (call : Call) (key : String) : Call :=
  { call with env := call.env.without key }

/-- The variable has no part in the settings, nor in what comes of the call unless it is the one
that tells how much is logged. -/
structure ChangesNothing (decode : AppConfig.Decoder) (call : Call) (key : String) : Prop where
  settings : Program.settings decode (call.unsetting key) = Program.settings decode call
  run : key ≠ "SOUNDWATCH_DEBUG" →
    Program.run decode (call.unsetting key) = Program.run decode call

theorem changesNothing_of_isSilent (decode : AppConfig.Decoder) {call : Call} {key : String}
    (silent : call.env.IsSilent key) : ChangesNothing decode call key := by
  have settings : Program.settings decode (call.unsetting key) =
      Program.settings decode call := by
    simp only [Program.settings, Call.unsetting, layered,
      WatchConfig.withEnvironment_without _ call.env silent]
  refine ⟨settings, fun other => ?_⟩
  have debug : call.env.without key Environment.debugKey = call.env Environment.debugKey :=
    call.env.without_of_ne other.symm
  have flag : (call.unsetting key).env.flag Environment.debugKey =
      call.env.flag Environment.debugKey := by
    simp only [Call.unsetting, Environment.flag, Environment.text?, debug]
  rw [run, run, settings, flag]
  rfl

/-- How the settings of a call come about. There are settings if the arguments are made of tokens
and the settings file can be read and decoded; each of them is then the one of the highest layer
that tells it. What the environment tells is told once and for all. -/
structure LayersByField (decode : AppConfig.Decoder) (call : Call) : Prop where
  settings : ∀ settings, Program.settings decode call = .ok settings ↔
    ∃ tokens app, spell tokens = call.arguments ∧
      AppConfig.IsOn decode call.disk (Options.asked tokens).config app ∧
      FieldByField tokens app call.env settings
  malformed : ∀ key text, call.env key = some (Text.encode text) →
    ¬Environment.IsHeeded key text → ChangesNothing decode call key
  blank : ∀ key text, call.env key = some (Text.encode text) →
    Text.isAllBlank text.toList = true → ChangesNothing decode call key
  notUtf8 : ∀ key bytes, call.env key = some bytes → (∀ text, bytes ≠ Text.encode text) →
    ChangesNothing decode call key
  settled : ∀ config : WatchConfig,
    (config.withEnvironment call.env).withEnvironment call.env = config.withEnvironment call.env

/-- Settings are layered field by field, whatever the decoder makes of the file. -/
theorem settings_are_layered (decode : AppConfig.Decoder) (call : Call) :
    LayersByField decode call := by
  constructor
  case settings =>
    intro settings
    rw [settings_eq_ok_iff]
    constructor
    · rintro ⟨options, app, understood, loaded, rfl⟩
      obtain ⟨tokens, spelled, rfl⟩ := (Options.parse_eq_ok_iff _ options).mp understood
      exact ⟨tokens, app, spelled, (AppConfig.load_eq_ok_iff _ _ _ app).mp loaded,
        fieldByField_layered tokens app call.env⟩
    · rintro ⟨tokens, app, spelled, isOn, fields⟩
      exact ⟨_, app, (Options.parse_eq_ok_iff _ _).mpr ⟨tokens, spelled, rfl⟩,
        (AppConfig.load_eq_ok_iff _ _ _ app).mpr isOn,
        (fieldByField_layered tokens app call.env).unique fields⟩
  case malformed =>
    intro key text set unheeded
    apply changesNothing_of_isSilent
    intro other same
    rw [set] at same
    rwa [← Text.encode_inj (Option.some.inj same)]
  case blank =>
    intro key text set blank
    apply changesNothing_of_isSilent
    intro other same heeded
    rw [set] at same
    obtain rfl := Text.encode_inj (Option.some.inj same)
    rw [heeded.isAllBlank] at blank
    exact nomatch blank
  case notUtf8 =>
    intro key bytes set illFormed
    apply changesNothing_of_isSilent
    intro text same _
    rw [set] at same
    exact illFormed text (Option.some.inj same)
  case settled =>
    intro config
    exact config.withEnvironment_withEnvironment call.env

/-- An environment that names a backend and a rate, with blanks around them, and has bytes that are
no text in the place of a folder. -/
def mixedEnvironment : Environment := fun key =>
  [("SOUNDWATCH_BACKEND", Text.encode " DUMMY\n"), ("SOUNDWATCH_WATCH_DIR", [0xFF]),
    ("SOUNDWATCH_SAMPLE_RATE", Text.encode "\t+044100")].lookup key

/-- A file with all three settings of the watch. -/
def watchFile : String :=
  "[watch]\nbackend = 'alsa'\nwatch_dir = '/tmp/snd'\npreferred_sample_rate = 96000\n"

/-- A disk with nothing but that file. -/
def watchDisk : Disk where
  present := fun path => path == "x.toml"
  contents := fun path =>
    if path = "x.toml" then .ok (Text.encode watchFile) else .error .notFound
  watch := fun _ => .error .notFound

/-- With a file, an environment and a flag each layer settles what it tells, over what the file has.
The folder is the file's: its variable might as well not be set. -/
theorem settings_are_layered_with_file :
    let call : Call := ⟨["--json", "--config", "x.toml"], mixedEnvironment, watchDisk, .silent⟩
    AppConfig.ofToml watchFile = .ok ⟨⟨.alsa, "/tmp/snd", 96000⟩, false⟩ ∧
    Program.settings AppConfig.ofToml call = .ok ⟨⟨.dummy, "/tmp/snd", 44100⟩, true, false⟩ ∧
      Program.run AppConfig.ofToml (call.unsetting "SOUNDWATCH_WATCH_DIR") =
        Program.run AppConfig.ofToml call := by
  intro call
  have layers := settings_are_layered AppConfig.ofToml call
  have decoded : AppConfig.ofToml watchFile = .ok ⟨⟨.alsa, "/tmp/snd", 96000⟩, false⟩ := by
    decide +kernel
  have read : watchDisk.contents "x.toml" = .ok (Text.encode watchFile) := by
    simp only [watchDisk, if_true]
  have isOn : AppConfig.IsOn AppConfig.ofToml watchDisk (some "x.toml") _ :=
    .named "x.toml" watchFile _ read decoded
  have told : layered (.asked [.json, .config "x.toml"]) ⟨⟨.alsa, "/tmp/snd", 96000⟩, false⟩
      mixedEnvironment = ⟨⟨.dummy, "/tmp/snd", 44100⟩, true, false⟩ := by decide +kernel
  have fields := fieldByField_layered [.json, .config "x.toml"]
    ⟨⟨.alsa, "/tmp/snd", 96000⟩, false⟩ mixedEnvironment
  rw [told] at fields
  have illFormed : ∀ text, [0xFF] ≠ Text.encode text := by
    intro text same
    have none : Text.decode? [0xFF] = none := by decide +kernel
    rw [(Text.decode?_eq_some_iff [0xFF] text).mpr same] at none
    cases none
  refine ⟨decoded, ?_, ?_⟩
  · exact (layers.settings _).mpr ⟨[.json, .config "x.toml"], _, rfl, isOn, fields⟩
  · exact (layers.notUtf8 "SOUNDWATCH_WATCH_DIR" [0xFF] rfl illFormed).run (by decide)

end Program

end SoundDevices
