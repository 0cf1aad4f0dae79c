import LaunchPolicy.CommandLine.Run
import LaunchPolicy.Proofs.Outcome
import LaunchPolicy.Proofs.Session.Run
import LaunchPolicy.Proofs.Text.Integer

/-!
Where settings come from. Each of seven variables of the environment stands before one setting of the
configuration file, if it is set and not empty, and touches no other; a file that is named on the
command line stands before all of them.
-/

namespace LaunchPolicy

/-- A setting that a variable of the environment can replace. -/
inductive Setting where
  | inspector
  | timeLimit
  | kubeconfig
  | context
  | space
  | pauseVersion
  | withRuntime
deriving DecidableEq, Repr

namespace Setting

def variableName : Setting → String
  | inspector => "CCPOLICY_SKOPEO_PATH"
  | timeLimit => "CCPOLICY_REGISTRY_TIMEOUT"
  | kubeconfig => "CCPOLICY_KUBECONFIG"
  | context => "CCPOLICY_KUBE_CONTEXT"
  | space => "CCPOLICY_NAMESPACE"
  | pauseVersion => "CCPOLICY_PAUSE_IMAGE_VERSION"
  | withRuntime => "CCPOLICY_WITH_DEFAULT_RULES"

/-- What a setting is among all settings. -/
def value (settings : Settings) : Setting → Value
  | inspector => settings.inspector.path
  | timeLimit => settings.inspector.timeout
  | kubeconfig => settings.cluster.kubeconfig
  | context => settings.cluster.context
  | space => settings.cluster.space
  | pauseVersion => .text settings.sandbox.version
  | withRuntime => .bool settings.withRuntime

/-- What a setting is to be when its variable says so. -/
def Says (word : String) : Setting → Value → Prop
  | timeLimit, v => ∃ n, Text.IsInteger word.toList n ∧ v = .int n
  | withRuntime, v => v = .bool (Settings.isOn word)
  | _, v => v = .text word

end Setting

namespace Settings

/-- The settings that no variable can replace. -/
def apart (settings : Settings) : Settings where
  inspector := { settings.inspector with path := .null, timeout := .null }
  cluster := { settings.cluster with kubeconfig := .null, context := .null, space := .null }
  sandbox := { settings.sandbox with version := "" }

/-- Settings in which those whose variable is set and not empty are what it says, and all others are
kept. -/
structure Replaced (environment : Environment) (base settings : Settings) : Prop where
  apart : settings.apart = base.apart
  given : ∀ setting word, environment (Setting.variableName setting) = some word → word ≠ "" →
    setting.Says word (setting.value settings)
  kept : ∀ setting, environment (Setting.variableName setting) = none ∨
    environment (Setting.variableName setting) = some "" → setting.value settings = setting.value base

variable {machine : Machine} {files : Files} {environment other : Environment} {base settings changed : Settings}

theorem given_eq_some_iff {name word : String} :
    given? environment name = some word ↔ environment name = some word ∧ word ≠ "" := by
  rw [given?]
  cases environment name with
  | none => simp
  | some value =>
      by_cases empty : value = ""
      · simp [empty]
      · simp only [String.isEmpty_iff, empty, ↓reduceIte, Option.some.injEq]
        exact ⟨by rintro rfl; exact ⟨rfl, empty⟩, And.left⟩

theorem given_eq_none_iff {name : String} :
    given? environment name = none ↔ environment name = none ∨ environment name = some "" := by
  rw [given?]
  cases environment name <;> simp

/-- Nothing is left of settings beside those with a variable and those without one. -/
theorem eq_of_values (apart : changed.apart = settings.apart)
    (values : ∀ setting : Setting, setting.value changed = setting.value settings) : changed = settings := by
  have inspector := values .inspector
  have timeLimit := values .timeLimit
  have kubeconfig := values .kubeconfig
  have context := values .context
  have space := values .space
  have pauseVersion := values .pauseVersion
  have withRuntime := values .withRuntime
  rcases settings with ⟨⟨⟩, ⟨⟩, ⟨⟩, _⟩
  rcases changed with ⟨⟨⟩, ⟨⟩, ⟨⟩, _⟩
  simp_all [Setting.value, Settings.apart]

theorem says_unique {setting : Setting} {word : String} {v w : Value} (here : setting.Says word v)
    (there : setting.Says word w) : v = w := by
  cases setting with
  | timeLimit =>
      obtain ⟨n, spelled, rfl⟩ := here
      obtain ⟨m, spelledToo, rfl⟩ := there
      have same := (Text.integer_eq_some_iff.mpr spelled).symm.trans (Text.integer_eq_some_iff.mpr spelledToo)
      rw [Option.some.inj same]
  | _ => exact here.trans there.symm

theorem Replaced.unique (replaced : Replaced environment base settings)
    (replacedToo : Replaced environment base changed) : changed = settings := by
  refine eq_of_values (replacedToo.apart.trans replaced.apart.symm) fun setting => ?_
  cases found : given? environment setting.variableName with
  | some word =>
      obtain ⟨found, nonempty⟩ := given_eq_some_iff.mp found
      exact says_unique (replacedToo.given setting word found nonempty)
        (replaced.given setting word found nonempty)
  | none =>
      have unset := given_eq_none_iff.mp found
      exact (replacedToo.kept setting unset).trans (replaced.kept setting unset).symm

theorem timeout_of_ok_iff {word : String} {v : Value} :
    timeoutOf word = .ok v ↔ Setting.timeLimit.Says word v := by
  simp only [timeoutOf, Setting.Says, ← Text.integer_eq_some_iff]
  cases Text.integer? word.toList with
  | some n => simp [eq_comm]
  | none => simp

theorem timeout_of_error_iff {word : String} {e : PolicyError} :
    timeoutOf word = .error e ↔
      (∀ n, ¬ Text.IsInteger word.toList n) ∧ e = .settings (.timeoutNotInteger word) := by
  simp only [timeoutOf, ← Text.integer_eq_some_iff]
  cases Text.integer? word.toList with
  | some n => simp
  | none => simp [eq_comm]

theorem with_environment_replaces (done : base.withEnvironment environment = .ok settings) :
    Replaced environment base settings := by
  rw [withEnvironment] at done
  obtain ⟨limit, read, same⟩ := Outcome.bind_ok_iff.mp done
  obtain rfl := Except.ok.inj same
  constructor
  · rfl
  · intro setting word found nonempty
    replace found := given_eq_some_iff.mpr ⟨found, nonempty⟩
    cases setting with
    | timeLimit =>
        rw [timeoutIn, show given? environment "CCPOLICY_REGISTRY_TIMEOUT" = some word from found] at read
        exact timeout_of_ok_iff.mp read
    | _ =>
        rw [Setting.variableName] at found
        simp [Setting.value, Setting.Says, found]
  · intro setting unset
    replace unset := given_eq_none_iff.mpr unset
    cases setting with
    | timeLimit =>
        rw [timeoutIn, show given? environment "CCPOLICY_REGISTRY_TIMEOUT" = none from unset] at read
        exact (Except.ok.inj read).symm
    | _ =>
        rw [Setting.variableName] at unset
        simp [Setting.value, unset]

/-- The time limit is the only setting whose variable can have no meaning. -/
theorem with_environment_error_iff {e : PolicyError} :
    base.withEnvironment environment = .error e ↔
      ∃ word, (environment Setting.timeLimit.variableName = some word ∧ word ≠ "") ∧
        (∀ n, ¬ Text.IsInteger word.toList n) ∧ e = .settings (.timeoutNotInteger word) := by
  simp only [← given_eq_some_iff]
  rw [withEnvironment, Outcome.bind_error_iff, timeoutIn, Setting.variableName]
  cases given? environment "CCPOLICY_REGISTRY_TIMEOUT" with
  | some word => simp [timeout_of_error_iff, pure, Except.pure]
  | none => simp [pure, Except.pure]

theorem with_environment_ok_iff :
    base.withEnvironment environment = .ok settings ↔ Replaced environment base settings := by
  constructor
  · exact with_environment_replaces
  · intro replaced
    cases done : base.withEnvironment environment with
    | ok found => rw [replaced.unique (with_environment_replaces done)]
    | error e =>
        obtain ⟨word, ⟨given, nonempty⟩, senseless, -⟩ := with_environment_error_iff.mp done
        obtain ⟨n, spelled, -⟩ := replaced.given .timeLimit word given nonempty
        exact absurd spelled (senseless n)

/-- The settings that the environment stands before: those of the file that it names, or the standard
ones. -/
def configured (machine : Machine) (files : Files) (environment : Environment) : Except Failure Settings :=
  match environment "CCPOLICY_CONFIG_FILE" with
  | none | some "" => .ok {}
  | some path => ofFile machine files path

theorem of_environment_eq (machine : Machine) (files : Files) (environment : Environment) :
    ofEnvironment machine files environment = configured machine files environment >>= fun base =>
      (base.withEnvironment environment).mapError .policy := by
  rw [ofEnvironment]
  cases given : given? environment "CCPOLICY_CONFIG_FILE" with
  | none =>
      have standard : configured machine files environment = .ok {} := by
        rw [configured]
        rcases given_eq_none_iff.mp given with found | found
        · rw [found]
        · simp only [found]
      rw [standard]
      rfl
  | some path =>
      have loaded : configured machine files environment = ofFile machine files path := by
        obtain ⟨found, nonempty⟩ := given_eq_some_iff.mp given
        rw [configured, found]
        split
        · contradiction
        · rename_i empty
          exact absurd (Option.some.inj empty) nonempty
        · rename_i same
          rw [Option.some.inj same]
      rw [loaded]

theorem of_environment_ok_iff :
    ofEnvironment machine files environment = .ok settings ↔
      ∃ base, configured machine files environment = .ok base ∧ Replaced environment base settings := by
  simp only [of_environment_eq, Outcome.bind_ok_iff, Outcome.map_error_ok_iff, with_environment_ok_iff]

/-- What can go wrong: first the file, and then the word for the time limit. -/
theorem of_environment_error_iff {failure : Failure} :
    ofEnvironment machine files environment = .error failure ↔
      configured machine files environment = .error failure ∨
        ∃ base word, configured machine files environment = .ok base ∧
          (environment Setting.timeLimit.variableName = some word ∧ word ≠ "") ∧
          (∀ n, ¬ Text.IsInteger word.toList n) ∧
          failure = .policy (.settings (.timeoutNotInteger word)) := by
  simp only [of_environment_eq, Outcome.bind_error_iff, Outcome.map_error_error_iff,
    with_environment_error_iff]
  refine or_congr_right (exists_congr fun base => ?_)
  constructor
  · rintro ⟨loaded, -, ⟨word, given, senseless, rfl⟩, rfl⟩
    exact ⟨word, loaded, given, senseless, rfl⟩
  · rintro ⟨word, loaded, given, senseless, rfl⟩
    exact ⟨loaded, _, ⟨word, given, senseless, rfl⟩, rfl⟩

/-! What one variable does -/

theorem variable_name_injective : Function.Injective Setting.variableName := by
  intro setting another same
  cases setting <;> cases another <;> first | rfl | exact absurd same (by decide)

theorem configured_agrees (agree : environment "CCPOLICY_CONFIG_FILE" = other "CCPOLICY_CONFIG_FILE") :
    configured machine files other = configured machine files environment := by
  rw [configured, configured, agree]

/-- A variable of the environment has no effect on the settings of others. -/
theorem only_own_setting {setting : Setting}
    (agree : ∀ name, name ≠ setting.variableName → environment name = other name)
    (read : ofEnvironment machine files environment = .ok settings)
    (readToo : ofEnvironment machine files other = .ok changed) :
    changed.apart = settings.apart ∧
      ∀ another, another ≠ setting → another.value changed = another.value settings := by
  obtain ⟨base, loaded, replaced⟩ := of_environment_ok_iff.mp read
  obtain ⟨base', loadedToo, replacedToo⟩ := of_environment_ok_iff.mp readToo
  have file : environment "CCPOLICY_CONFIG_FILE" = other "CCPOLICY_CONFIG_FILE" :=
    agree _ (by cases setting <;> decide)
  rw [configured_agrees file, loaded] at loadedToo
  obtain rfl := Except.ok.inj loadedToo
  refine ⟨replacedToo.apart.trans replaced.apart.symm, fun another distinct => ?_⟩
  have same := agree _ (variable_name_injective.ne distinct)
  cases found : given? other another.variableName with
  | some word =>
      obtain ⟨found, nonempty⟩ := given_eq_some_iff.mp found
      exact says_unique (replacedToo.given another word found nonempty)
        (replaced.given another word (same.trans found) nonempty)
  | none =>
      have unset := given_eq_none_iff.mp found
      exact (replacedToo.kept another unset).trans (replaced.kept another (by rwa [same])).symm

/-- Whether settings can be read depends on no variable but that of the time limit. -/
theorem failure_unless_time_limit {setting : Setting} {failure : Failure}
    (isOther : setting ≠ .timeLimit)
    (agree : ∀ name, name ≠ setting.variableName → environment name = other name) :
    ofEnvironment machine files environment = .error failure ↔ ofEnvironment machine files other = .error failure := by
  have file : environment "CCPOLICY_CONFIG_FILE" = other "CCPOLICY_CONFIG_FILE" :=
    agree _ (by cases setting <;> decide)
  have limit := agree _ (variable_name_injective.ne isOther.symm)
  rw [of_environment_error_iff, of_environment_error_iff, configured_agrees file, limit]

end Settings

namespace CommandLine

variable {i : Invocation} {host : Host}

/-- The settings that the flags of a command line stand before. -/
def Host.settings (host : Host) : Option String → Except Failure Settings
  | none | some "" => Settings.ofEnvironment host.machine host.files host.environment
  | some path => Settings.ofFile host.machine host.files path

theorem Host.settings_named {path : String} (nonempty : path ≠ "") :
    host.settings (some path) = Settings.ofFile host.machine host.files path := by
  rw [Host.settings.eq_def]
  split
  · contradiction
  · exact absurd (Option.some.inj ‹_›) nonempty
  · rename_i same
    rw [Option.some.inj same]

theorem Invocation.settings_eq (i : Invocation) (host : Host) :
    i.settings host = (host.settings i.config).map fun settings =>
      { settings with withRuntime := i.withRuntime || settings.withRuntime } := by
  rw [Invocation.settings, Host.settings.eq_def]
  generalize i.config = config
  split
  · cases Settings.ofEnvironment host.machine host.files host.environment <;> rfl
  · cases Settings.ofEnvironment host.machine host.files host.environment <;> rfl
  · rename_i path nonempty
    simp only
    cases Settings.ofFile host.machine host.files path <;> rfl

/-- The flag for the runtime's defaults switches them on and changes nothing else. -/
theorem Invocation.settings_with_runtime (i : Invocation) (host : Host) :
    { i with withRuntime := true : Invocation }.settings host =
        (host.settings i.config).map (fun settings => { settings with withRuntime := true }) ∧
      { i with withRuntime := false : Invocation }.settings host = host.settings i.config := by
  constructor
  · rw [Invocation.settings_eq]
    rfl
  · rw [Invocation.settings_eq]
    cases host.settings i.config <;> rfl

/-- Settings are those of the file that the command line names, or else of the environment over those of
the file that the environment names. A variable replaces its own setting when it is set and not empty;
nothing fails but a file that has no settings, and after it a time limit that is no integer. -/
theorem settings_by_precedence (i : Invocation) (host : Host) :
    (∀ settings, Settings.ofEnvironment host.machine host.files host.environment = .ok settings ↔
      ∃ base, Settings.configured host.machine host.files host.environment = .ok base ∧
        Settings.Replaced host.environment base settings) ∧
    (∀ failure, Settings.ofEnvironment host.machine host.files host.environment = .error failure ↔
      Settings.configured host.machine host.files host.environment = .error failure ∨
        ∃ base word, Settings.configured host.machine host.files host.environment = .ok base ∧
          (host.environment Setting.timeLimit.variableName = some word ∧ word ≠ "") ∧
          (∀ n, ¬ Text.IsInteger word.toList n) ∧
          failure = .policy (.settings (.timeoutNotInteger word))) ∧
    (∀ setting other, (∀ name, name ≠ Setting.variableName setting → host.environment name = other name) →
      (∀ settings changed, Settings.ofEnvironment host.machine host.files host.environment = .ok settings →
        Settings.ofEnvironment host.machine host.files other = .ok changed →
        changed.apart = settings.apart ∧
          ∀ another, another ≠ setting → another.value changed = another.value settings) ∧
      (setting ≠ .timeLimit → ∀ failure,
        Settings.ofEnvironment host.machine host.files host.environment = .error failure ↔
          Settings.ofEnvironment host.machine host.files other = .error failure)) ∧
    (i.config = none ∨ i.config = some "" →
      { i with withRuntime := false : Invocation }.settings host =
        Settings.ofEnvironment host.machine host.files host.environment) ∧
    (∀ path, i.config = some path → path ≠ "" →
      { i with withRuntime := false : Invocation }.settings host = Settings.ofFile host.machine host.files path ∧
      ∀ environment, i.settings { host with environment } = i.settings host) ∧
    (∀ value, i.apply .withRuntime value = .ok { i with withRuntime := true }) ∧
    { i with withRuntime := true : Invocation }.settings host =
      ({ i with withRuntime := false : Invocation }.settings host).map fun settings =>
        { settings with withRuntime := true } := by
  obtain ⟨on, off⟩ := i.settings_with_runtime host
  refine ⟨fun _ => Settings.of_environment_ok_iff, fun _ => Settings.of_environment_error_iff, ?_, ?_, ?_,
    fun _ => rfl, off ▸ on⟩
  · intro setting other agree
    exact ⟨fun settings changed => Settings.only_own_setting agree,
      fun isOther failure => Settings.failure_unless_time_limit isOther agree⟩
  · intro unnamed
    rw [off]
    rcases unnamed with unnamed | unnamed <;> rw [unnamed] <;> rfl
  · intro path named nonempty
    constructor
    · rw [off, named, Host.settings_named nonempty]
    · intro environment
      rw [Invocation.settings_eq, Invocation.settings_eq, named, Host.settings_named nonempty,
        Host.settings_named nonempty]
      rfl

def settingsText : String := "\x7b\"registry\": \x7b\"timeout_seconds\": 9\x7d, \"cluster\": \x7b\"context\": \"a\"\x7d\x7d"

/-- A host whose environment names a file and gives some of the settings, one of them emptily. -/
def settledHost : Host where
  files := FileTree.files { contents := [(["c.json"], settingsText.toUTF8.toList)] }
  environment name := [("CCPOLICY_CONFIG_FILE", "c.json"), ("CCPOLICY_REGISTRY_TIMEOUT", " +3_0 "),
    ("CCPOLICY_NAMESPACE", "b"), ("CCPOLICY_KUBE_CONTEXT", ""),
    ("CCPOLICY_WITH_DEFAULT_RULES", "off")].lookup name
  world := .silent

/-- The settings of its file. -/
def settledBase : Settings where
  inspector := { timeout := .int 9 }
  cluster := { context := .text "a" }

def settledSettings : Settings where
  inspector := { timeout := .int 30 }
  cluster := { context := .text "a", space := .text "b" }

theorem environment_over_settled_file :
    Settings.configured settledHost.machine settledHost.files settledHost.environment = .ok settledBase ∧
      Settings.Replaced settledHost.environment settledBase settledSettings ∧
      { config := some "", withRuntime := true : Invocation }.settings settledHost =
        .ok { settledSettings with withRuntime := true } ∧
      { config := some "c.json" : Invocation }.settings settledHost = .ok settledBase ∧
      { config := some "c.json" : Invocation }.settings { settledHost with environment := fun _ => none } =
        .ok settledBase := by
  have loaded : Settings.configured settledHost.machine settledHost.files settledHost.environment = .ok settledBase := by
    decide +kernel
  have read : Settings.ofEnvironment settledHost.machine settledHost.files settledHost.environment = .ok settledSettings := by
    decide +kernel
  have file : Settings.ofFile settledHost.machine settledHost.files "c.json" = .ok settledBase := by decide +kernel
  obtain ⟨environment, -, -, unnamed, -, -, flag⟩ :=
    settings_by_precedence { config := some "" } settledHost
  obtain ⟨-, -, -, -, named, -⟩ := settings_by_precedence { config := some "c.json" } settledHost
  obtain ⟨fromFile, same⟩ := named "c.json" rfl (by decide)
  obtain ⟨base, loadedToo, replaced⟩ := (environment _).mp read
  obtain rfl := Except.ok.inj (loaded.symm.trans loadedToo)
  refine ⟨loaded, replaced, ?_, fromFile.trans file, (same _).trans (fromFile.trans file)⟩
  exact flag.trans (by rw [unnamed (.inr rfl), read]; rfl)

end CommandLine

end LaunchPolicy
