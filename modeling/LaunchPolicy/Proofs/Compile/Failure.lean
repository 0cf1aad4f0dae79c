import LaunchPolicy.Compile.Workload
import LaunchPolicy.Proofs.Compile.Typed
import LaunchPolicy.Proofs.Image.Inspection

/-!
Why a compilation fails. A document is refused for an unsupported kind only where its kind is
classified; whatever else goes wrong while a workload is read and compiled is reported as something
else, so a stream never takes a failure of a supported workload for a document to pass on. Four
faults of data are not reported: a reference whose names cannot be listed, an image document with
an integer that is too long, and settings that are no texts where a command or a namespace is needed.
-/

namespace LaunchPolicy

open Outcome (FailsOnly fails_only_ok fails_only_error)

def PolicyError.Regular (e : PolicyError) : Prop := e.isUnsupportedKind = false

/-- An error that is reported, but not as an unsupported kind, or one of some faults. -/
def Failure.Expected (escapes : Fault → Prop) : Failure → Prop
  | .policy e => e.Regular
  | .data fault => escapes fault

namespace Manifest

theorem misshapen_regular {α : Type} (path : FieldPath) (what : String) (shape : Shape) :
    FailsOnly PolicyError.Regular (misshapen path what shape : Read α) := fails_only_error rfl

variable (fields : Fields) (key : String) (path : FieldPath)

theorem mapping_regular : FailsOnly PolicyError.Regular (mapping? fields key path) := by
  rw [mapping?]
  split
  · exact fails_only_ok none
  · exact fails_only_ok _
  · exact misshapen_regular path key .mapping

theorem sequence_regular : FailsOnly PolicyError.Regular (sequence fields key path) := by
  rw [sequence]
  split
  · exact fails_only_ok []
  · exact fails_only_ok _
  · exact misshapen_regular path key .sequence

theorem string_regular : FailsOnly PolicyError.Regular (string fields key path) := by
  rw [string]
  split
  · exact fails_only_ok _
  · exact misshapen_regular path key .string

theorem optional_string_regular :
    FailsOnly PolicyError.Regular (optionalString fields key path) := by
  rw [optionalString]
  split
  · exact fails_only_ok _
  · exact fails_only_ok _
  · exact misshapen_regular path key .string

theorem flag_regular : FailsOnly PolicyError.Regular (flag fields key path) := by
  rw [flag]
  split
  · exact fails_only_ok false
  · exact fails_only_ok _
  · exact misshapen_regular path key .bool

theorem each_item_regular {α : Type} {items : List Value} {read : FieldPath → Value → Read α}
    (each : ∀ itemPath item, FailsOnly PolicyError.Regular (read itemPath item)) :
    FailsOnly PolicyError.Regular (eachItem path items read) :=
  Outcome.fails_only_map_m fun item => each _ item.1

theorem strings_regular : FailsOnly PolicyError.Regular (strings fields key path) := by
  apply (sequence_regular fields key path).bind
  intro items
  apply each_item_regular path
  intro itemPath item
  split
  · exact fails_only_ok _
  · exact fails_only_error rfl

end Manifest

open Manifest

namespace Workload

theorem descend_regular (path : FieldPath) (names : List String) (fields : Fields) :
    FailsOnly PolicyError.Regular (descend .noPodSpec path names fields) := by
  induction names generalizing path fields with
  | nil => exact fails_only_ok fields
  | cons name names ih =>
      rw [descend]
      split
      · exact ih _ _
      · exact fails_only_error rfl

theorem read_volumes_regular (spec : Fields) (path : FieldPath) :
    FailsOnly PolicyError.Regular (readVolumes spec path) := by
  apply (sequence_regular spec "volumes" _).bind
  intro items
  refine (each_item_regular _ fun itemPath item => ?_).bind fun entries => fails_only_ok _
  cases item with
  | map fields => exact (string_regular fields "name" _).bind fun name => fails_only_ok _
  | _ => exact fails_only_error rfl

theorem read_containers_regular (spec : Fields) (key : String) (path : FieldPath)
    (space : Option Text) (cluster : Option ClusterSettings) :
    FailsOnly PolicyError.Regular (readContainers spec key path space cluster) := by
  apply (sequence_regular spec key _).bind
  intro items
  apply each_item_regular _
  intro itemPath item
  cases item with
  | map fields => exact fails_only_ok _
  | _ => exact misshapen_regular itemPath "container" .mapping

/-- Once its kind is known, nothing else makes a document unsupported. -/
theorem of_fields_regular {fields : Fields} {kind : WorkloadKind}
    (supported : WorkloadKind.ofManifest fields = .ok kind) (cluster : Option ClusterSettings) :
    FailsOnly PolicyError.Regular (ofFields fields cluster) := by
  rw [ofFields, supported]
  apply (mapping_regular fields "metadata" _).bind
  intro metadata
  apply (optional_string_regular _ "name" _).bind
  intro name
  apply (optional_string_regular _ "namespace" _).bind
  intro space
  apply (descend_regular {} _ fields).bind
  intro spec
  apply (read_volumes_regular spec _).bind
  intro volumes
  apply (read_containers_regular spec "containers" _ _ cluster).bind
  intro containers
  apply (read_containers_regular spec "initContainers" _ _ cluster).bind
  intro initContainers
  exact fails_only_ok _

end Workload

namespace ContainerEntry

variable (entry : ContainerEntry)

theorem security_context_regular : FailsOnly PolicyError.Regular entry.securityContext := by
  apply (mapping_regular entry.fields "securityContext" _).bind
  intro context
  cases context with
  | none => exact fails_only_ok _
  | some context =>
      apply (flag_regular context "privileged" _).bind
      intro privileged
      exact (flag_regular context "allowPrivilegeEscalation" _).bind fun escalation =>
        fails_only_ok _

theorem entry_point_regular : FailsOnly PolicyError.Regular entry.entryPoint := by
  apply (optional_string_regular entry.fields "workingDir" _).bind
  intro workingDir
  apply (strings_regular entry.fields "command" _).bind
  intro command
  exact (strings_regular entry.fields "args" _).bind fun args => fails_only_ok _

theorem mount_regular (volumes : Volumes) (path : FieldPath) (item : Value) :
    FailsOnly PolicyError.Regular (mount volumes path item) := by
  cases item with
  | map fields =>
      apply (string_regular fields "mountPath" _).bind
      intro destination
      refine FailsOnly.bind ?_ fun mode => ?_
      · rw [propagation]
        split
        · exact fails_only_ok _
        · exact misshapen_regular _ "mountPropagation" .string
      · apply (string_regular fields "name" _).bind
        intro name
        split
        · exact fails_only_error rfl
        · simp only
          split
          all_goals
            first
              | refine (fails_only_ok true).bind fun readOnly => ?_
              | refine (flag_regular fields "readOnly" _).bind fun readOnly => ?_
            split
            · exact fails_only_error rfl
            · exact fails_only_ok _
  | _ => exact misshapen_regular path "volumeMount" .mapping

theorem mounts_regular (volumes : Volumes) :
    FailsOnly PolicyError.Regular (entry.mounts volumes) :=
  (sequence_regular entry.fields "volumeMounts" _).bind fun _ =>
    each_item_regular _ fun itemPath item => mount_regular volumes itemPath item

end ContainerEntry

namespace Compile

variable {α : Type} {world : World} {escapes : Fault → Prop}

theorem of_policy_expected {r : Except PolicyError α}
    (regular : Outcome.FailsOnly PolicyError.Regular r) :
    (ofPolicy r).FailsIn world (Failure.Expected escapes) := fails_in_of_policy regular

theorem of_fault_expected {fault : Fault} (escape : escapes fault) :
    (ofFault (.error fault) : Compile α).FailsIn world (Failure.Expected escapes) :=
  fails_in_of_fault fun _ failed => Except.error.inj failed ▸ escape

theorem fail_expected {e : PolicyError} (regular : e.Regular) :
    (fail e : Compile α).FailsIn world (Failure.Expected escapes) :=
  fails_in_of_except fun _ failed => Except.error.inj failed ▸ regular

end Compile

open Compile (of_policy_expected of_fault_expected fail_expected fails_in_pure fails_in_get
  fails_in_read_bind fails_in_ask fails_in_note fails_in_modify fails_in_map_m
  fails_in_of_except fails_in_fold)

variable {world : World} {escapes : Fault → Prop}

namespace ClusterSettings

theorem connect_expected (settings : ClusterSettings) :
    settings.connect.FailsIn world (Failure.Expected escapes) := by
  refine fails_in_get.bind fun session => ?_
  split
  · exact fails_in_pure ()
  · refine (fails_in_ask _).bind fun _ => fails_in_read_bind ?_
    split
    · exact fail_expected rfl
    · exact fails_in_modify _

theorem map_data_expected (settings : ClusterSettings) (space : Scalar) (map : Text) :
    (settings.mapData space map).FailsIn world (Failure.Expected escapes) := by
  refine fails_in_get.bind fun session => ?_
  split
  · exact fails_in_pure _
  · apply (connect_expected settings).bind
    intro _
    refine (fails_in_note _).bind fun _ => (fails_in_ask _).bind fun _ => fails_in_read_bind ?_
    split
    · exact fail_expected rfl
    · exact (fails_in_modify _).bind fun _ => fails_in_pure _

theorem lookup_regular (data : Fields) (map key : Text) :
    FailsOnly PolicyError.Regular (lookup data map key) := by
  rw [lookup]
  split
  · exact fails_only_error rfl
  · exact fails_only_ok _
  · exact fails_only_error rfl

/-- Without a namespace that can be compared there is nothing to look up. -/
def Spaceless (settings : ClusterSettings) : Prop := ∀ s, settings.space ≠ .scalar s

theorem value_expected (settings : ClusterSettings) (space : Option Text) (map key : Text)
    (spaceless : settings.Spaceless → escapes .wrongType) :
    (settings.value space map key).FailsIn world (Failure.Expected escapes) := by
  rw [value]
  split
  · exact (map_data_expected settings _ map).bind fun data =>
      of_policy_expected (lookup_regular data map key)
  · rename_i other
    apply of_fault_expected
    apply spaceless
    intro s same
    cases space with
    | none => exact other s same
    | some name =>
        rw [spaceFor] at other
        split at other
        · exact other s same
        · exact other _ rfl

end ClusterSettings

/-- The names of a reference are none that is known, and a report cannot list them: they have no
order, or one of them has no text. -/
inductive Manifest.Unlisted (sources : Fields) : Fault → Prop
  | unordered (noMap : sources.get? (.text "configMapKeyRef") = none)
      (noLaunch : ∀ name ∈ ContainerEntry.launchTimeReferences,
        Fields.contains sources (.text name) = false)
      (unsorted : Scalar.sorted? (sources.map (·.1)) = none) : Unlisted sources .wrongType
  | unwritten {listed : List Scalar} (noMap : sources.get? (.text "configMapKeyRef") = none)
      (noLaunch : ∀ name ∈ ContainerEntry.launchTimeReferences,
        Fields.contains sources (.text name) = false)
      (sorted : Scalar.sorted? (sources.map (·.1)) = some listed)
      (tooLong : ∃ key ∈ listed, key.hasText = false) : Unlisted sources .badValue

namespace ContainerEntry

variable (entry : ContainerEntry)

/-- An environment entry of the container takes its value from an unlisted reference. -/
def RefersUnlisted (fault : Fault) : Prop :=
  ∃ items fields sources, sequence entry.fields "env" (entry.path.field "env") = .ok items ∧
    .map fields ∈ items ∧ Fields.contains fields (.text "value") = false ∧
    present? fields "valueFrom" = some (.map sources) ∧ Unlisted sources fault

/-- The cluster that resolves the container's references has no namespace to look in. -/
def Spaceless : Prop := ∃ cluster, entry.cluster = some cluster ∧ cluster.Spaceless

theorem config_map_value_expected (reference : Value) (path : FieldPath)
    (spaceless : entry.Spaceless → escapes .wrongType) :
    (entry.configMapValue reference path).FailsIn world (Failure.Expected escapes) := by
  cases reference with
  | map fields =>
      apply (of_policy_expected (string_regular fields "name" _)).bind
      intro map
      apply (of_policy_expected (string_regular fields "key" _)).bind
      intro key
      split
      · exact fail_expected rfl
      · rename_i cluster resolves
        exact ClusterSettings.value_expected cluster entry.space map key fun without =>
          spaceless ⟨cluster, resolves, without⟩
  | _ => exact fail_expected rfl

theorem reference_rule_expected (fields : Fields) (name : Text) (path : FieldPath)
    (spaceless : entry.Spaceless → escapes .wrongType)
    (unlisted : ∀ sources fault, present? fields "valueFrom" = some (.map sources) →
      Unlisted sources fault → escapes fault) :
    (entry.referenceRule fields name path).FailsIn world (Failure.Expected escapes) := by
  apply (of_policy_expected (mapping_regular fields "valueFrom" path)).bind_ran
  intro session sources? middle read
  have read : mapping? fields "valueFrom" path = .ok sources? :=
    Outcome.map_error_ok_iff.mp (congrArg Prod.fst read)
  cases sources? with
  | none => exact fails_in_pure _
  | some sources =>
      have found := mapping_some_iff.mp read
      simp only
      split
      · exact (config_map_value_expected entry _ _ spaceless).bind fun value => fails_in_pure _
      · rename_i noMap
        split
        · exact fails_in_pure _
        · rename_i noLaunch
          have noLaunch : ∀ name ∈ launchTimeReferences,
              Fields.contains sources (.text name) = false := by simpa using noLaunch
          split
          · rename_i listed sorted
            split
            · exact fail_expected rfl
            · rename_i written
              have tooLong : ∃ key ∈ listed, key.hasText = false := by simpa using written
              exact of_fault_expected
                (unlisted sources _ found (.unwritten noMap noLaunch sorted tooLong))
          · rename_i unsorted
            exact of_fault_expected (unlisted sources _ found (.unordered noMap noLaunch unsorted))

theorem environment_expected (spaceless : entry.Spaceless → escapes .wrongType)
    (unlisted : ∀ fault, entry.RefersUnlisted fault → escapes fault) :
    entry.environment.FailsIn world (Failure.Expected escapes) := by
  apply (of_policy_expected (sequence_regular entry.fields "env" _)).bind_ran
  intro session items middle read
  have read : sequence entry.fields "env" (entry.path.field "env") = .ok items :=
    Outcome.map_error_ok_iff.mp (congrArg Prod.fst read)
  refine fails_in_map_m fun (item, index) member => ?_
  have listed : item ∈ items := List.fst_mem_of_mem_zipIdx member
  cases item with
  | map fields =>
      apply (of_policy_expected (string_regular fields "name" _)).bind
      intro name
      split
      · exact (of_policy_expected (string_regular fields "value" _)).bind fun value =>
          fails_in_pure _
      · rename_i absent
        have absent : Fields.contains fields (.text "value") = false := by simpa using absent
        exact reference_rule_expected entry fields name _ spaceless fun sources fault found names =>
          unlisted fault ⟨items, fields, sources, read, listed, absent, found, names⟩
  | _ => exact of_policy_expected (misshapen_regular _ "env" .mapping)

end ContainerEntry

/-- The inspection of some image comes to something that is no problem of an image. -/
def World.Unclassified (world : World) (fault : Fault) : Prop :=
  ∃ uri, (world.inspect uri).Unclassified world.machine.jsonRead fault

theorem Inspection.config_expected (settings : InspectorSettings) (uri : Text)
    (unclassified : ∀ fault, world.Unclassified fault → escapes fault) :
    FailsOnly (Failure.Expected escapes) ((world.inspect uri).config world.machine.jsonRead settings uri) := by
  intro failure failed
  rcases Inspection.config_fails _ _ _ _ failure failed with ⟨problem, rfl⟩ | ⟨fault, rfl, unclear⟩
  · rfl
  · exact unclassified fault ⟨uri, unclear⟩

/-- A word of the inspection command is no text. -/
def InspectorSettings.Wordless (settings : InspectorSettings) : Prop :=
  ∃ uri, (settings.command uri).mapM Value.text? = none

theorem InspectorSettings.fetch_expected (settings : InspectorSettings) (reference : Text)
    (wordless : settings.Wordless → escapes .wrongType)
    (unclassified : ∀ fault, world.Unclassified fault → escapes fault) :
    (settings.fetch reference).FailsIn world (Failure.Expected escapes) := by
  rw [fetch]
  split
  · rename_i noWords
    exact of_fault_expected (wordless ⟨_, noWords⟩)
  · refine (fails_in_note _).bind fun _ => (fails_in_ask _).bind fun _ => fails_in_read_bind ?_
    exact fails_in_of_except (Inspection.config_expected settings _ unclassified)

theorem EntryPoint.resolve_args_regular (command args : List Text) (image : ImageConfig) :
    FailsOnly PolicyError.Regular (resolveArgs command args image) := by
  have either : ∀ resolved : List Text, FailsOnly PolicyError.Regular
      (if resolved.isEmpty then .error .noCommand else .ok resolved) := by
    intro resolved
    split
    · exact fails_only_error rfl
    · exact fails_only_ok resolved
  exact either _

namespace ContainerPolicy

/-- Where all rules are texts, nothing but the lack of a command fails. -/
theorem complete_expected {defaults kubelet : LaunchSpec} (image : ImageConfig)
    {declared : Declared} (defaultsTyped : defaults.Typed) (kubeletTyped : kubelet.Typed)
    (ownTyped : ∀ mount ∈ declared.mounts, mount.Typed) :
    FailsOnly (Failure.Expected escapes) (complete defaults kubelet image declared) := by
  obtain ⟨env, mergedEnv⟩ := merge_env_typed image declared.env
    defaultsTyped.process.env kubeletTyped.process.env
  have mergedMounts := merge_mounts_at_texts image (Mounts.at_texts_of_typed defaultsTyped.mounts)
    (Mounts.at_texts_of_typed ownTyped) (Mounts.at_texts_of_typed kubeletTyped.mounts)
  rw [complete, mergedEnv, mergedMounts]
  refine FailsOnly.bind ?_ fun args => fails_only_ok _
  intro failure failed
  obtain ⟨e, cause, rfl⟩ := Outcome.map_error_error_iff.mp failed
  exact EntryPoint.resolve_args_regular _ _ image e cause

theorem build_expected {entry : Option ContainerEntry} (volumes : Option Volumes)
    (image : ImageConfig) {runtime kubelet : LaunchSpec} (withRuntime : Bool)
    (runtimeTyped : runtime.Typed) (kubeletTyped : kubelet.Typed)
    (spaceless : ∀ this ∈ entry, this.Spaceless → escapes .wrongType)
    (unlisted : ∀ this ∈ entry, ∀ fault, this.RefersUnlisted fault → escapes fault) :
    (build entry volumes image runtime kubelet withRuntime).FailsIn world
      (Failure.Expected escapes) := by
  have defaultsTyped : (if withRuntime then runtime else {}).Typed := by
    split
    · exact runtimeTyped
    · exact LaunchSpec.empty_sound.typed
  have declares : (Declared.ofAny entry volumes).FailsIn world (Failure.Expected escapes) := by
    cases entry with
    | none => exact fails_in_pure _
    | some entry =>
        apply (of_policy_expected entry.entry_point_regular).bind
        intro entryPoint
        apply (entry.environment_expected (spaceless entry rfl) (unlisted entry rfl)).bind
        intro env
        cases volumes with
        | none => exact (fails_in_pure _).bind fun mounts => fails_in_pure _
        | some volumes =>
            exact (of_policy_expected (entry.mounts_regular volumes)).bind fun mounts =>
              fails_in_pure _
  rw [build_eq]
  refine declares.bind_ran fun session declared middle ran => ?_
  exact fails_in_of_except (complete_expected image defaultsTyped kubeletTyped
    (Declared.mounts_of_typed (Declared.mounts_of_entry ran)))

end ContainerPolicy

theorem Kubelet.container_rules_typed : Kubelet.containerRules.Typed :=
  ⟨⟨_, rfl⟩, ⟨⟨_, rfl⟩, by simp [containerRules], by simp [containerRules]⟩, mounts_typed⟩

namespace Compiler

variable {compiler : Compiler}

theorem container_expected {entry : ContainerEntry} (volumes : Volumes) (withRuntime : Bool)
    (spaceless : entry.Spaceless → escapes .wrongType)
    (unlisted : ∀ fault, entry.RefersUnlisted fault → escapes fault)
    (wordless : compiler.inspector.Wordless → escapes .wrongType)
    (unclassified : ∀ fault, world.Unclassified fault → escapes fault) :
    (compiler.container entry volumes withRuntime).FailsIn world (Failure.Expected escapes) := by
  apply (of_policy_expected entry.security_context_regular).bind
  intro context
  apply (of_policy_expected (flag_regular entry.fields "tty" _)).bind
  intro tty
  apply (of_policy_expected (string_regular entry.fields "image" _)).bind
  intro reference
  apply (compiler.inspector.fetch_expected reference wordless unclassified).bind
  intro image
  have rules : (runtimeRules context.privileged tty).FailsIn world (Failure.Expected escapes) := by
    intro session failure after failed
    obtain ⟨other, ran⟩ := run_runtime_rules context.privileged tty world session
    exact absurd (congrArg Prod.fst (ran.symm.trans failed)) (by simp)
  refine rules.bind_ran fun session runtime middle ran => ?_
  have runtimeSound := runtime_rules_sound _ _ world session runtime middle ran
  apply ContainerPolicy.build_expected (some volumes) image withRuntime runtimeSound.typed
    Kubelet.container_rules_typed
  · rintro this ⟨⟩
    exact spaceless
  · rintro this ⟨⟩
    exact unlisted

theorem sandbox_expected (wordless : compiler.inspector.Wordless → escapes .wrongType)
    (unclassified : ∀ fault, world.Unclassified fault → escapes fault) :
    compiler.sandbox.FailsIn world (Failure.Expected escapes) := by
  refine (fails_in_note _).bind fun _ => ?_
  apply (compiler.inspector.fetch_expected compiler.pauseImage wordless unclassified).bind
  intro image
  exact ContainerPolicy.build_expected none image true
    (Runtime.sandbox_rules_sound false false).typed LaunchSpec.empty_sound.typed
    (by simp) (by simp)

end Compiler

namespace WorkloadCompiler

/-- Faults of data that the compilation of containers does not report. -/
inductive Escapes (compiler : WorkloadCompiler) (world : World) (entries : List ContainerEntry) :
    Fault → Prop
  | unlisted {entry : ContainerEntry} {fault : Fault} (member : entry ∈ entries)
      (refers : entry.RefersUnlisted fault) : Escapes compiler world entries fault
  | unclassified {fault : Fault} (inspection : world.Unclassified fault) : Escapes compiler world entries fault
  | wordless (command : compiler.inspector.Wordless) : Escapes compiler world entries .wrongType
  | spaceless {entry : ContainerEntry} (member : entry ∈ entries) (without : entry.Spaceless) :
      Escapes compiler world entries .wrongType

def entriesOf (workload : Workload) : List ContainerEntry :=
  workload.containers ++ workload.initContainers

variable {compiler : WorkloadCompiler}

theorem policies_expected (workload : Workload) :
    (compiler.policies workload).FailsIn world
      (Failure.Expected (compiler.Escapes world (entriesOf workload))) := by
  refine Compile.FailsIn.bind (fails_in_fold fun document entry member => ?_) fun document => ?_
  · apply (of_policy_expected (string_regular entry.fields "name" _)).bind
    intro name
    refine Compile.FailsIn.bind (Compiler.container_expected _ _ (.spaceless member)
      (fun _ => .unlisted member) .wordless fun _ => .unclassified) fun policy => ?_
    exact (fails_in_note _).bind fun _ => fails_in_pure _
  · split
    · exact (Compiler.sandbox_expected .wordless fun _ => .unclassified).bind fun policy => fails_in_pure _
    · exact fails_in_pure _

theorem document_expected (workload : Workload) :
    (compiler.document workload).FailsIn world
      (Failure.Expected (compiler.Escapes world (entriesOf workload))) := by
  refine (fails_in_note _).bind fun _ => Compile.FailsIn.bind ?_ fun document => ?_
  · apply (policies_expected workload).try_catch
    intro failure expected
    have passedOn : (throw failure : Compile PolicyDocument).FailsIn world
        (Failure.Expected (compiler.Escapes world (entriesOf workload))) :=
      fails_in_of_except (fails_only_error expected)
    cases failure with
    | policy reason => exact (fails_in_note _).bind fun _ => passedOn
    | data fault => exact passedOn
  · exact (fails_in_note _).bind fun _ => fails_in_pure _

/-- What escapes from the compilation of a manifest, which must have been read as a workload. -/
def EscapesFrom (compiler : WorkloadCompiler) (world : World) (manifest : Value) (fault : Fault) :
    Prop :=
  ∃ workload, Workload.ofDocument manifest compiler.cluster = .ok workload ∧
    compiler.Escapes world (entriesOf workload) fault

/-- A manifest of a supported kind is never refused for its kind. -/
theorem of_manifest_expected {fields : Fields} {kind : WorkloadKind}
    (supported : WorkloadKind.ofManifest fields = .ok kind) :
    (compiler.ofManifest (.map fields)).FailsIn world
      (Failure.Expected (compiler.EscapesFrom world (.map fields))) := by
  have extracts : (Workload.extract (.map fields) compiler.cluster).FailsIn world
      (Failure.Expected (compiler.EscapesFrom world (.map fields))) :=
    (of_policy_expected (Workload.of_fields_regular supported _)).bind fun workload =>
      (fails_in_note _).bind fun _ => fails_in_pure _
  refine extracts.bind_ran fun session workload middle extracted => ?_
  obtain ⟨same, read, extracted⟩ := Compile.run_of_policy_bind_ok_iff.mp extracted
  rw [Compile.run_note_bind] at extracted
  obtain ⟨rfl, -⟩ : same = workload ∧ _ = middle := by simpa using extracted
  have compiles : (compiler.document same).FailsIn world
      (Failure.Expected (compiler.EscapesFrom world (.map fields))) := by
    refine (document_expected same).weaken fun failure expected => ?_
    cases failure with
    | policy e => exact expected
    | data fault => exact ⟨same, read, expected⟩
  exact compiles.bind fun document => fails_in_pure _

end WorkloadCompiler

end LaunchPolicy
