import LaunchPolicy.Proofs.Json.Closed
import LaunchPolicy.Proofs.Policy.Fields
import LaunchPolicy.Proofs.Value.Refusal
import LaunchPolicy.Settings.File

/-!
Settings as trees. Of the faults that a configuration does not report, reading them has two: a time
limit without an end, and a version with too many levels. Settings are read back from their tree, and
settings that are read from JSON values are written as JSON values.
-/

namespace LaunchPolicy

open Outcome (FailsOnly fails_only_ok fails_only_error bind_ok_iff)

/-- What a configuration reports, or something else. -/
def Settings.IsSettingFault (other : Fault → Prop) (fault : Fault) : Prop :=
  Settings.isReported fault = true ∨ other fault

/-- An infinite number has no integer. -/
inductive Settings.Infinite (infinite : Prop) : Fault → Prop
  | overflow (limit : infinite) : Infinite infinite .overflow

open Settings (IsSettingFault Infinite)

theorem Binary64.finite_truncates (negative : Bool) (mantissa : Nat) (exponent : Int) :
    ∃ n, (finite negative mantissa exponent).truncate? = some n := by
  rw [truncate?, ratio?]
  split <;> exact ⟨_, rfl⟩

theorem Scalar.integer_fails (s : Scalar) :
    FailsOnly (IsSettingFault (Infinite (∃ negative, s = .float (.infinite negative)))) s.integer := by
  cases s with
  | null => exact fails_only_error (.inl rfl)
  | bool b => exact fails_only_ok _
  | int n => exact fails_only_ok _
  | float x =>
      cases x with
      | finite negative mantissa exponent =>
          obtain ⟨n, truncated⟩ := Binary64.finite_truncates negative mantissa exponent
          rw [Scalar.integer, truncated]
          · exact fails_only_ok n
          · exact Binary64.noConfusion
      | infinite negative => exact fails_only_error (.inr (.overflow ⟨negative, rfl⟩))
      | notANumber => exact fails_only_error (.inl rfl)
  | text s =>
      rw [Scalar.integer, Scalar.integerOfNumeral]
      split
      · exact fails_only_ok _
      · exact fails_only_error (.inl rfl)
  | bytes octets =>
      rw [Scalar.integer]
      split
      · rw [Scalar.integerOfNumeral]
        split
        · exact fails_only_ok _
        · exact fails_only_error (.inl rfl)
      · exact fails_only_error (.inl rfl)
  | date d => exact fails_only_error (.inl rfl)
  | moment m => exact fails_only_error (.inl rfl)

namespace Value

theorem field_map (fields : Fields) (name : String) (default : Value) :
    (map fields).field name default = .ok ((fields.get? (.text name)).getD default) := rfl

theorem field_ok_iff {v : Value} {name : String} {default found : Value} :
    v.field name default = .ok found ↔
      ∃ fields, v = .map fields ∧ (Fields.get? fields (.text name)).getD default = found := by
  cases v with
  | map fields => simp [field_map]
  | _ => simp [field, fields, bind, Except.bind]

theorem field_fails (v : Value) (name : String) (default : Value) (other : Fault → Prop) :
    FailsOnly (IsSettingFault other) (v.field name default) := by
  cases v with
  | map fields => exact fails_only_ok _
  | _ => exact fails_only_error (.inl rfl)

theorem items_fails (v : Value) (other : Fault → Prop) : FailsOnly (IsSettingFault other) v.items := by
  rw [items.eq_def]
  split <;> first | exact fails_only_ok _ | exact fails_only_error (.inl rfl)

theorem integer_fails (v : Value) :
    FailsOnly (IsSettingFault (Infinite (∃ negative, v = .float (.infinite negative)))) v.integer := by
  cases v with
  | scalar s =>
      intro fault failed
      rcases s.integer_fails fault failed with reported | ⟨negative, rfl⟩
      · exact .inl reported
      · exact .inr (.overflow ⟨negative, rfl⟩)
  | _ => exact fails_only_error (.inl rfl)

end Value

/-- The time limit of a section is infinite. -/
def InspectorSettings.HasInfiniteTimeout (v : Value) : Prop :=
  ∃ negative, v.get? "timeout_seconds" = some (.float (.infinite negative))

open InspectorSettings (HasInfiniteTimeout)

theorem InspectorSettings.of_value_fails (v : Value) :
    FailsOnly (IsSettingFault (Infinite (HasInfiniteTimeout v))) (InspectorSettings.ofValue v) := by
  apply (v.field_fails _ _ _).bind
  intro path
  apply (v.field_fails _ _ _).bind
  intro registry
  apply (v.field_fails _ _ _).bind
  intro transport
  apply (v.field_fails _ _ _).bind_ok
  intro timeout given
  refine FailsOnly.bind (fun fault failed => ?_) fun seconds => ?_
  · rcases timeout.integer_fails fault failed with reported | ⟨negative, rfl⟩
    · exact .inl reported
    · rw [Value.field_ok_iff] at given
      obtain ⟨fields, rfl, given⟩ := given
      cases found : Fields.get? fields (.text "timeout_seconds") with
      | none =>
          -- the standard time limit is finite
          rw [found] at given
          exact absurd given (by simp)
      | some value =>
          rw [found] at given
          obtain rfl : value = .float (.infinite negative) := given
          exact .inr (.overflow ⟨negative, found⟩)
  · apply (v.field_fails _ _ _).bind
    intro arguments
    exact (arguments.items_fails _).bind fun items => fails_only_ok _

theorem InspectorSettings.of_value_infinite {v : Value} (infinite : HasInfiniteTimeout v) :
    InspectorSettings.ofValue v = .error .overflow := by
  obtain ⟨negative, found⟩ := infinite
  cases v with
  | map fields =>
      have given : Fields.get? fields (.text "timeout_seconds") = some (.float (.infinite negative)) := found
      simp only [InspectorSettings.ofValue, Value.field_map, given]
      rfl
  | _ => contradiction

theorem ClusterSettings.of_value_fails (v : Value) (other : Fault → Prop) :
    FailsOnly (IsSettingFault other) (ClusterSettings.ofValue v) := by
  apply (v.field_fails _ _ _).bind
  intro kubeconfig
  apply (v.field_fails _ _ _).bind
  intro context
  apply (v.field_fails _ _ _).bind
  intro inCluster
  exact (v.field_fails _ _ _).bind fun space => fails_only_ok _

/-- The version of a section has too many levels to be shown. -/
def SandboxSettings.HasDeepVersion (machine : Machine) (v : Value) : Prop :=
  ∃ version, v.get? "version" = some version ∧ version.textFault? machine.shown = some .tooDeep

open SandboxSettings (HasDeepVersion)

theorem SandboxSettings.of_value_fails (machine : Machine) (v : Value) :
    FailsOnly (IsSettingFault fun fault => fault = .tooDeep ∧ HasDeepVersion machine v)
      (SandboxSettings.ofValue machine v) := by
  apply (v.field_fails _ _ _).bind
  intro registry
  apply (v.field_fails _ _ _).bind
  intro name
  apply (v.field_fails _ _ _).bind_ok
  intro version given
  split
  · exact fails_only_ok _
  · rename_i fault failed
    rcases Value.text_fault_cases failed with rfl | rfl
    · exact fails_only_error (.inl rfl)
    · rw [Value.field_ok_iff] at given
      obtain ⟨fields, rfl, given⟩ := given
      cases found : Fields.get? fields (.text "version") with
      | none =>
          -- the standard version is a text
          rw [found] at given
          exact absurd failed (given ▸ nofun)
      | some value =>
          rw [found] at given
          obtain rfl : value = version := given
          exact fails_only_error (.inr ⟨rfl, value, found, failed⟩)

namespace Settings

/-- The time limit of the inspector is infinite. -/
def HasInfiniteTimeout (v : Value) : Prop :=
  ∃ registry, v.get? "registry" = some registry ∧ InspectorSettings.HasInfiniteTimeout registry

/-- The version of the sandbox's image has too many levels to be shown. -/
def HasDeepVersion (machine : Machine) (v : Value) : Prop :=
  ∃ sandbox, v.get? "sandbox" = some sandbox ∧ SandboxSettings.HasDeepVersion machine sandbox

/-- The sections before the sandbox are read. -/
def HasFirstSections (v : Value) : Prop :=
  (∃ inspector, (section? v "registry" >>= InspectorSettings.ofValue) = .ok inspector) ∧
    ∃ cluster, (section? v "cluster" >>= ClusterSettings.ofValue) = .ok cluster

/-- Why settings are not read, where a configuration does not report it. -/
inductive Unreported (machine : Machine) (v : Value) : Fault → Prop
  | infinite (limit : HasInfiniteTimeout v) : Unreported machine v .overflow
  | deep (before : HasFirstSections v) (version : HasDeepVersion machine v) : Unreported machine v .tooDeep

theorem section_fails (v : Value) (name : String) (other : Fault → Prop) :
    FailsOnly (IsSettingFault other) (section? v name) :=
  (v.field_fails _ _ _).bind fun _ => fails_only_ok _

/-- A section is what is written, or empty. -/
theorem section_cases {v found : Value} {name : String} (given : section? v name = .ok found) :
    v.get? name = some found ∨ found = .map [] := by
  obtain ⟨written, looked, given⟩ := bind_ok_iff.mp given
  obtain rfl := Except.ok.inj given
  obtain ⟨fields, rfl, rfl⟩ := Value.field_ok_iff.mp looked
  split
  · rename_i counts
    cases written : Fields.get? fields (.text name) with
    | none =>
        rw [written] at counts
        contradiction
    | some value => exact .inl written
  · exact .inr rfl

theorem section_of_get {v found : Value} {name : String} (written : v.get? name = some found)
    (counts : found.truthy = true) : section? v name = .ok found := by
  cases v with
  | map fields =>
      have given : Fields.get? fields (.text name) = some found := written
      simp only [section?, Value.field_map, given, Option.getD_some, bind, Except.bind, counts, if_true]
      rfl
  | _ => contradiction

theorem of_value_fails (machine : Machine) (v : Value) :
    FailsOnly (IsSettingFault (Unreported machine v)) (Settings.ofValue machine v) := by
  apply (section_fails v _ _).bind_ok
  intro registry givenRegistry
  refine FailsOnly.bind_ok (fun fault failed => ?_) fun inspector inspected => ?_
  · rcases InspectorSettings.of_value_fails registry fault failed with reported | ⟨⟨infinite⟩⟩
    · exact .inl reported
    · rcases section_cases givenRegistry with written | rfl
      · exact .inr (.infinite ⟨registry, written, infinite⟩)
      · obtain ⟨negative, found⟩ := infinite
        contradiction
  · apply (section_fails v _ _).bind_ok
    intro cluster givenCluster
    apply (ClusterSettings.of_value_fails cluster _).bind_ok
    intro settings clustered
    apply (section_fails v _ _).bind_ok
    intro sandbox givenSandbox
    refine FailsOnly.bind (fun fault failed => ?_) fun sandbox =>
      (v.field_fails _ _ _).bind fun runtime => fails_only_ok _
    rcases SandboxSettings.of_value_fails machine sandbox fault failed with reported | ⟨rfl, deep⟩
    · exact .inl reported
    · have before : HasFirstSections v := ⟨⟨inspector, bind_ok_iff.mpr ⟨registry, givenRegistry, inspected⟩⟩,
        ⟨settings, bind_ok_iff.mpr ⟨cluster, givenCluster, clustered⟩⟩⟩
      rcases section_cases givenSandbox with written | rfl
      · exact .inr (.deep before ⟨sandbox, written, deep⟩)
      · obtain ⟨version, found, -⟩ := deep
        contradiction

theorem of_value_infinite {machine : Machine} {v : Value} (infinite : HasInfiniteTimeout v) :
    Settings.ofValue machine v = .error .overflow := by
  obtain ⟨registry, written, infinite⟩ := infinite
  have counts : registry.truthy = true := by
    obtain ⟨negative, found⟩ := infinite
    cases registry with
    | map fields =>
        cases fields with
        | nil => contradiction
        | cons field fields => rfl
    | _ => contradiction
  rw [Settings.ofValue, section_of_get written counts]
  simp only [bind, Except.bind, InspectorSettings.of_value_infinite infinite]

/-- A version with too many levels is found where the sections before it are read. -/
theorem of_value_deep {machine : Machine} {v : Value} (before : HasFirstSections v)
    (deep : HasDeepVersion machine v) : Settings.ofValue machine v = .error .tooDeep := by
  obtain ⟨⟨inspector, inspected⟩, ⟨cluster, clustered⟩⟩ := before
  obtain ⟨sandbox, written, version, given, deep⟩ := deep
  obtain ⟨registry, foundRegistry, readRegistry⟩ := bind_ok_iff.mp inspected
  obtain ⟨clusterSection, foundCluster, readCluster⟩ := bind_ok_iff.mp clustered
  have mapping : ∃ fields, sandbox = .map fields := by
    cases sandbox with
    | map fields => exact ⟨fields, rfl⟩
    | _ => contradiction
  obtain ⟨fields, rfl⟩ := mapping
  have counts : (Value.map fields).truthy = true := by
    cases fields with
    | nil => contradiction
    | cons field fields => rfl
  have given : Fields.get? fields (.text "version") = some version := given
  simp [Settings.ofValue, foundRegistry, readRegistry, foundCluster, readCluster,
    section_of_get written counts, SandboxSettings.ofValue, Value.field_map, given, deep, bind, Except.bind,
    throw, throwThe, MonadExceptOf.throw]

theorem of_value_unreported {machine : Machine} {v : Value} {fault : Fault}
    (unreported : Unreported machine v fault) : Settings.ofValue machine v = .error fault := by
  cases unreported with
  | infinite limit => exact of_value_infinite limit
  | deep before version => exact of_value_deep before version

end Settings

/-! Reading back -/

/-- The time limit is an integer, as in all settings that are read. -/
def InspectorSettings.IsWhole (settings : InspectorSettings) : Prop := ∃ seconds, settings.timeout = .int seconds

theorem InspectorSettings.of_value_to_value {settings : InspectorSettings} (whole : settings.IsWhole) :
    InspectorSettings.ofValue settings.toValue = .ok settings := by
  obtain ⟨path, registry, transport, timeout, arguments⟩ := settings
  obtain ⟨seconds, rfl⟩ := whole
  simp [InspectorSettings.ofValue, InspectorSettings.toValue, Value.field_object_cons, Value.integer,
    Scalar.integer, Value.items, bind, Except.bind, pure, Except.pure]

theorem ClusterSettings.of_value_to_value (settings : ClusterSettings) :
    ClusterSettings.ofValue settings.toValue = .ok settings := by
  simp [ClusterSettings.ofValue, ClusterSettings.toValue, Value.field_object_cons, bind, Except.bind, pure,
    Except.pure]

/-- A version that is written is a text. -/
theorem SandboxSettings.of_value_to_value (machine : Machine) (settings : SandboxSettings) :
    SandboxSettings.ofValue machine settings.toValue = .ok settings := by
  have written : (Value.text settings.version).textFault? machine.shown = none :=
    messageRefusal.fault_scalar machine.shown (.text settings.version)
  simp [SandboxSettings.ofValue, SandboxSettings.toValue, Value.field_object_cons, written, Value.plain,
    Scalar.plain, bind, Except.bind, pure, Except.pure]

/-- No section is written as an empty mapping. -/
theorem Settings.of_value_to_value {settings : Settings} (whole : settings.inspector.IsWhole)
    (machine : Machine) : Settings.ofValue machine settings.toValue = .ok settings := by
  have inspector : Settings.section? settings.toValue "registry" = .ok settings.inspector.toValue :=
    section_of_get rfl rfl
  have cluster : Settings.section? settings.toValue "cluster" = .ok settings.cluster.toValue :=
    section_of_get rfl rfl
  have sandbox : Settings.section? settings.toValue "sandbox" = .ok settings.sandbox.toValue :=
    section_of_get rfl rfl
  have runtime : settings.toValue.field "with_default_rules" (.bool false) = .ok (.bool settings.withRuntime) := rfl
  simp [Settings.ofValue, inspector, cluster, sandbox, runtime, InspectorSettings.of_value_to_value whole,
    ClusterSettings.of_value_to_value, SandboxSettings.of_value_to_value, Value.truthy, Scalar.truthy, bind,
    Except.bind, pure, Except.pure]

section

variable {kind : Scalar → Prop} {machine : Machine} {v : Value}

theorem InspectorSettings.of_value_whole {settings : InspectorSettings}
    (read : InspectorSettings.ofValue v = .ok settings) : settings.IsWhole := by
  obtain ⟨path, -, read⟩ := bind_ok_iff.mp read
  obtain ⟨registry, -, read⟩ := bind_ok_iff.mp read
  obtain ⟨transport, -, read⟩ := bind_ok_iff.mp read
  obtain ⟨timeout, -, read⟩ := bind_ok_iff.mp read
  obtain ⟨seconds, -, read⟩ := bind_ok_iff.mp read
  obtain ⟨written, -, read⟩ := bind_ok_iff.mp read
  obtain ⟨arguments, -, read⟩ := bind_ok_iff.mp read
  obtain rfl := Except.ok.inj read
  exact ⟨seconds, rfl⟩

theorem Settings.of_value_whole {settings : Settings} (read : Settings.ofValue machine v = .ok settings) :
    settings.inspector.IsWhole := by
  obtain ⟨section_, -, read⟩ := bind_ok_iff.mp read
  obtain ⟨inspector, readInspector, read⟩ := bind_ok_iff.mp read
  obtain ⟨_, -, read⟩ := bind_ok_iff.mp read
  obtain ⟨_, -, read⟩ := bind_ok_iff.mp read
  obtain ⟨_, -, read⟩ := bind_ok_iff.mp read
  obtain ⟨_, -, read⟩ := bind_ok_iff.mp read
  obtain ⟨_, -, read⟩ := bind_ok_iff.mp read
  obtain rfl := Except.ok.inj read
  exact InspectorSettings.of_value_whole readInspector

variable (closed : Scalar.IsClosed kind)

include closed

theorem InspectorSettings.of_value_consists {settings : InspectorSettings} (consists : v.Consists kind)
    (read : InspectorSettings.ofValue v = .ok settings) : settings.toValue.Consists kind := by
  obtain ⟨path, givenPath, read⟩ := bind_ok_iff.mp read
  obtain ⟨registry, givenRegistry, read⟩ := bind_ok_iff.mp read
  obtain ⟨transport, givenTransport, read⟩ := bind_ok_iff.mp read
  obtain ⟨timeout, givenTimeout, read⟩ := bind_ok_iff.mp read
  obtain ⟨seconds, readTimeout, read⟩ := bind_ok_iff.mp read
  obtain ⟨written, givenArguments, read⟩ := bind_ok_iff.mp read
  obtain ⟨arguments, readArguments, read⟩ := bind_ok_iff.mp read
  obtain rfl := Except.ok.inj read
  have standard : kind (.int 120) := closed.integer (.text "120") 120 (closed.string _) (by decide)
  have secondsTree := (consists.field (.scalar standard) givenTimeout).integer closed readTimeout
  have argumentTrees := consists.listed_field closed givenArguments readArguments
  simp [InspectorSettings.toValue, Value.consists_object_iff, Value.consists_scalar_iff, secondsTree,
    argumentTrees, consists.text_field closed givenPath, consists.text_field closed givenRegistry,
    consists.text_field closed givenTransport, closed.string]

theorem ClusterSettings.of_value_consists {settings : ClusterSettings} (consists : v.Consists kind)
    (read : ClusterSettings.ofValue v = .ok settings) : settings.toValue.Consists kind := by
  obtain ⟨kubeconfig, givenKubeconfig, read⟩ := bind_ok_iff.mp read
  obtain ⟨context, givenContext, read⟩ := bind_ok_iff.mp read
  obtain ⟨inCluster, givenInCluster, read⟩ := bind_ok_iff.mp read
  obtain ⟨space, givenSpace, read⟩ := bind_ok_iff.mp read
  obtain rfl := Except.ok.inj read
  have kubeconfigTree := consists.field (.scalar closed.null) givenKubeconfig
  have contextTree := consists.field (.scalar closed.null) givenContext
  have inClusterTree := consists.field (.scalar (closed.truth false)) givenInCluster
  have spaceTree := consists.text_field closed givenSpace
  simp [ClusterSettings.toValue, Value.consists_object_iff, kubeconfigTree, contextTree, inClusterTree, spaceTree,
    closed.string]

theorem SandboxSettings.of_value_consists {settings : SandboxSettings} (consists : v.Consists kind)
    (read : SandboxSettings.ofValue machine v = .ok settings) : settings.toValue.Consists kind := by
  obtain ⟨registry, givenRegistry, read⟩ := bind_ok_iff.mp read
  obtain ⟨name, givenName, read⟩ := bind_ok_iff.mp read
  obtain ⟨version, givenVersion, read⟩ := bind_ok_iff.mp read
  split at read
  · obtain rfl := Except.ok.inj read
    have versionText := (consists.text_field closed givenVersion).plain closed
    simp [SandboxSettings.toValue, Value.consists_object_iff, Value.consists_scalar_iff, closed.string, versionText,
      consists.text_field closed givenRegistry, consists.text_field closed givenName]
  · contradiction

theorem Settings.of_value_consists {settings : Settings} (consists : v.Consists kind)
    (read : Settings.ofValue machine v = .ok settings) : settings.toValue.Consists kind := by
  have section_ {name : String} {found : Value} (given : Settings.section? v name = .ok found) :
      found.Consists kind := by
    rcases section_cases given with written | rfl
    · exact consists.get_field written
    · exact Value.empty_consists kind
  obtain ⟨registry, givenRegistry, read⟩ := bind_ok_iff.mp read
  obtain ⟨inspector, readInspector, read⟩ := bind_ok_iff.mp read
  obtain ⟨cluster, givenCluster, read⟩ := bind_ok_iff.mp read
  obtain ⟨clusterSettings, readCluster, read⟩ := bind_ok_iff.mp read
  obtain ⟨sandbox, givenSandbox, read⟩ := bind_ok_iff.mp read
  obtain ⟨sandboxSettings, readSandbox, read⟩ := bind_ok_iff.mp read
  obtain ⟨runtime, -, read⟩ := bind_ok_iff.mp read
  obtain rfl := Except.ok.inj read
  have inspectorTree := InspectorSettings.of_value_consists closed (section_ givenRegistry) readInspector
  have clusterTree := ClusterSettings.of_value_consists closed (section_ givenCluster) readCluster
  have sandboxTree := SandboxSettings.of_value_consists closed (section_ givenSandbox) readSandbox
  simp [Settings.toValue, Value.consists_object_iff, Value.consists_scalar_iff, inspectorTree, clusterTree,
    sandboxTree, closed.truth, closed.string]

end

end LaunchPolicy
