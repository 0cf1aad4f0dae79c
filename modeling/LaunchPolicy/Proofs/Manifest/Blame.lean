import LaunchPolicy.Proofs.Cluster.Reading
import LaunchPolicy.Proofs.Manifest.Located

/-!
The errors of a manifest blame its fields. Whatever is read of a manifest is read at the end of the
path that an error would name: the kind, the metadata, the pod, its volumes and containers, what a
container declares, and the place of the annotation.
-/

namespace LaunchPolicy

open Manifest
open Outcome (FailsOnly fails_only_ok fails_only_error)

/-! The workload of a manifest -/

namespace WorkloadKind

theorem of_manifest_blames (document : Fields) :
    FailsOnly (PolicyError.BlamesField document) (ofManifest document) := by
  rw [ofManifest]
  split
  · rename_i name named
    split
    · exact fails_only_ok _
    · rename_i unknown
      apply fails_only_error
      intro e raised
      obtain rfl := PolicyError.manifest.inj raised
      refine ⟨"kind", [], .field "kind", .map document, fun _ => rfl, by decide, rfl, trivial,
        named, ?_⟩
      rintro kind rfl
      rw [of_name_name] at unknown
      contradiction
  · rename_i other
    refine fails_only_error ((Located.root document).blames (.field "kind") (by decide) trivial
      ?_ (by simp))
    cases found : Fields.get? document (.text "kind") with
    | none => exact absurd (by rw [found]; rfl) (other "")
    | some v =>
        refine ⟨v, found, fun fits => ?_⟩
        obtain ⟨s, rfl⟩ := Shape.fits_string_iff.mp fits
        exact other s (by rw [found]; rfl)

end WorkloadKind

namespace Workload

variable {document fields : Fields} {path : FieldPath} {cluster : Option ClusterSettings}
  {workload : Workload}

theorem descend_blames {names : List String} (here : Located document path (.map fields))
    (plain : ∀ name ∈ names, PathStep.Plain (.field name)) :
    FailsOnly (PolicyError.BlamesField document) (descend .noPodSpec path names fields) := by
  induction names generalizing path fields with
  | nil => exact fails_only_ok _
  | cons name names ih =>
      obtain ⟨first, plain⟩ := List.forall_mem_cons.mp plain
      rw [descend]
      split
      · rename_i inner found
        exact ih (here.field first found) plain
      · rename_i other
        refine fails_only_error (here.blames (.field name) first trivial ?_ (by simp))
        intro v found fits
        obtain ⟨inner, rfl⟩ := Shape.fits_mapping_iff.mp fits
        exact other inner found

theorem read_volumes_blames (here : Located document path (.map fields)) :
    FailsOnly (PolicyError.BlamesField document) (readVolumes fields path) := by
  have entries : FailsOnly (PolicyError.BlamesField document) (do
      eachItem (path.field "volumes") (← sequence fields "volumes" (path.field "volumes"))
        volumeEntry) := by
    refine here.each_item (by decide) fun items index item list within => ?_
    cases item with
    | map entry =>
        exact (((list.item within).string (by decide)).bind fun name => fails_only_ok _)
    | _ =>
        refine fails_only_error (list.item_blames within ⟨_, rfl, fun fits => ?_⟩ (by simp))
        simp [Shape.Fits] at fits
  intro e failed
  rcases Outcome.bind_error_iff.mp failed with failed | ⟨items, listed, failed⟩
  · exact entries e (Outcome.bind_error_iff.mpr (.inl failed))
  · rcases Outcome.bind_error_iff.mp failed with failed | ⟨results, -, failed⟩
    · exact entries e (Outcome.bind_error_iff.mpr (.inr ⟨items, listed, failed⟩))
    · contradiction

theorem read_containers_blames (here : Located document path (.map fields)) {key : String}
    (plain : PathStep.Plain (.field key)) (space : Option Text) :
    FailsOnly (PolicyError.BlamesField document) (readContainers fields key path space cluster) := by
  refine here.each_item plain fun items index item list within => ?_
  rw [ContainerEntry.ofValue.eq_def]
  split
  · exact fails_only_ok _
  · rename_i other
    exact list.item_misshapen within other "container"

theorem pod_spec_path_plain (kind : WorkloadKind) :
    ∀ name ∈ kind.podSpecPath, PathStep.Plain (.field name) := by
  cases kind <;> decide

theorem pod_located (found : (Value.map document).at? workload.kind.podSpecPath = some (.map fields)) :
    Located document (.ofFields workload.kind.podSpecPath) (.map fields) :=
  .of_fields (pod_spec_path_plain workload.kind) found

theorem of_fields_blames (document : Fields) (cluster : Option ClusterSettings) :
    FailsOnly (PolicyError.BlamesField document) (ofFields document cluster) := by
  have root := Located.root document
  refine (WorkloadKind.of_manifest_blames document).bind fun kind => ?_
  refine (root.mapping (by decide)).bind_ok fun metadata found => ?_
  have texts : ∀ key : String, PathStep.Plain (.field key) → FailsOnly (PolicyError.BlamesField document)
      (optionalString (metadata.getD []) key ((FieldPath.ofFields ["metadata"]).field key)) := by
    intro key plain
    cases metadata with
    | none => exact fails_only_ok _
    | some inner =>
        have present := present_of_get (mapping_some_iff.mp found)
        exact (root.field (by decide) present).optional_string plain
  refine (texts "name" (by decide)).bind fun name => ?_
  refine (texts "namespace" (by decide)).bind fun space => ?_
  refine (descend_blames root (pod_spec_path_plain kind)).bind_ok fun spec descended => ?_
  have pod := Located.of_fields (pod_spec_path_plain kind) (descend_ok_iff.mp descended)
  refine (read_volumes_blames pod).bind fun volumes => ?_
  refine (read_containers_blames pod (by decide) _).bind fun containers => ?_
  exact (read_containers_blames pod (by decide) _).bind fun initContainers => fails_only_ok _

theorem read_containers_located {key : String} {space : Option Text} {entries : List ContainerEntry}
    (here : Located document path (.map fields)) (plain : PathStep.Plain (.field key))
    (read : readContainers fields key path space cluster = .ok entries) :
    ∀ entry ∈ entries, Located document entry.path (.map entry.fields) := by
  obtain ⟨items, listed, read⟩ := Outcome.bind_ok_iff.mp read
  intro entry member
  obtain ⟨⟨item, index⟩, numbered, made⟩ := Outcome.related_result (Outcome.map_m_ok read) member
  have within := List.mem_zipIdx_iff_getElem?.mp numbered
  have place := (here.list plain listed within).item within
  cases item with
  | map inner =>
      obtain rfl := Except.ok.inj made
      exact place
  | _ => exact absurd made (by simp [ContainerEntry.ofValue, Manifest.misshapen])

/-- The entries of a workload stand in its manifest where their paths lead. -/
theorem entry_located (read : ofDocument (.map document) cluster = .ok workload)
    {entry : ContainerEntry} (member : entry ∈ workload.containers ++ workload.initContainers) :
    Located document entry.path (.map entry.fields) := by
  obtain ⟨fields, spec, same, -, found, -, containers, initContainers⟩ := of_document_ok read
  have pod := pod_located found
  rcases List.mem_append.mp member with member | member
  · exact read_containers_located pod (by decide) containers entry member
  · exact read_containers_located pod (by decide) initContainers entry member

/-- A name without a volume is the name of no declaration. -/
theorem undeclared (read : ofDocument (.map document) cluster = .ok workload) {name : Text}
    (missing : workload.volumes.get? name = none) :
    ∃ kind, WorkloadKind.ofManifest document = .ok kind ∧
      ∀ item ∈ podItems (.map document) kind "volumes", item.get? "name" ≠ some (.text name) := by
  obtain ⟨fields, spec, same, classified, found, volumes, -⟩ := of_document_ok read
  obtain rfl := Value.map.inj same
  refine ⟨workload.kind, classified, ?_⟩
  obtain ⟨entries, declared, folded⟩ := read_volumes_ok volumes
  rw [podItems, found, Option.getD_some]
  rw [Volumes.get?, Option.map_eq_none_iff, folded, Keyed.find_fold, List.find?_nil,
    Option.or_none] at missing
  intro item member named
  obtain ⟨entry, within, inner, rfl, known, -⟩ := Outcome.related_item declared member
  have same : entry.1 = name := by simpa [known] using named
  have none := List.getLast?_eq_none_iff.mp missing
  exact absurd same (by simpa using List.filter_eq_nil_iff.mp none entry within)

end Workload

/-! What the entry of a container declares -/

namespace ClusterSettings

/-- What a cluster is asked for is no matter of the manifest. -/
theorem value_fails {world : World} (settings : ClusterSettings) (space : Option Text)
    (map key : Text) :
    (settings.value space map key).FailsIn world fun failure => ∀ e, failure ≠ .policy (.manifest e) := by
  rw [value]
  split
  · rename_i s spaced
    have readFails : (settings.mapData s map).FailsIn world
        fun failure => ∀ e, failure ≠ .policy (.manifest e) := by
      intro session failure after ran
      obtain ⟨outcome, asked, reached, same, reading⟩ := map_data_reading settings world s map session
      rw [same] at ran
      obtain ⟨rfl, rfl⟩ := Prod.mk.inj ran
      cases reading <;> simp
    refine readFails.bind fun data => Compile.fails_in_of_policy fun e failed => ?_
    rw [lookup] at failed
    split at failed
    · obtain rfl := Except.error.inj failed
      simp
    · contradiction
    · obtain rfl := Except.error.inj failed
      simp
  · exact Compile.fails_in_of_fault fun fault failed => by simp

end ClusterSettings

/-- The same of a failure, which need not be an error of a manifest. -/
def Failure.BlamesField (document : Fields) (failure : Failure) : Prop :=
  ∀ e, failure = .policy (.manifest e) → e.Blames document

theorem Compile.fails_in_blames {document : Fields} {α : Type} {r : Read α} {world : World}
    (blames : FailsOnly (PolicyError.BlamesField document) r) :
    (Compile.ofPolicy r).FailsIn world (Failure.BlamesField document) := by
  refine Compile.fails_in_of_policy fun e failed cause same => ?_
  exact blames e failed cause (Failure.policy.inj same)

namespace ContainerEntry

open Compile (fails_in_blames)

variable {document fields : Fields} {entry : ContainerEntry} {path : FieldPath} {world : World}

section

variable (here : Located document entry.path (.map entry.fields))

include here

theorem name_blames : FailsOnly (PolicyError.BlamesField document) entry.name :=
  here.string (by decide)

theorem image_blames : FailsOnly (PolicyError.BlamesField document) entry.image :=
  here.string (by decide)

theorem tty_blames : FailsOnly (PolicyError.BlamesField document) entry.tty := here.flag (by decide)

theorem security_context_blames :
    FailsOnly (PolicyError.BlamesField document) entry.securityContext := by
  refine (here.mapping (by decide)).bind_ok fun context found => ?_
  cases context with
  | none => exact fails_only_ok _
  | some context =>
      have inner := here.field (by decide) (present_of_get (mapping_some_iff.mp found))
      refine (inner.flag (by decide)).bind fun privileged => ?_
      exact (inner.flag (by decide)).bind fun escalation => fails_only_ok _

theorem entry_point_blames : FailsOnly (PolicyError.BlamesField document) entry.entryPoint := by
  refine (here.optional_string (by decide)).bind fun workingDir => ?_
  refine (here.strings (by decide)).bind fun command => ?_
  exact (here.strings (by decide)).bind fun args => fails_only_ok _

end

theorem propagation_blames (here : Located document path (.map fields)) :
    FailsOnly (PolicyError.BlamesField document)
      (propagation fields (path.field "mountPropagation")) := by
  rw [propagation]
  split
  · exact fails_only_ok _
  · rename_i other
    apply here.misshapen (by decide)
    cases found : Fields.get? fields (.text "mountPropagation") with
    | none => exact absurd (by rw [found]; rfl) (other "None")
    | some v =>
        intro fits
        obtain ⟨mode, rfl⟩ := Shape.fits_string_iff.mp fits
        exact other mode (by rw [found]; rfl)

theorem unknown_propagation {mode : Text} (unknown : propagationOption? mode = none) :
    mode ∉ (["None", "HostToContainer", "Bidirectional"] : List Text) := by
  intro member
  simp only [List.mem_cons, List.not_mem_nil, or_false] at member
  rcases member with rfl | rfl | rfl <;> simp [propagationOption?] at unknown

/-- A mode that is not known is one that the mount declares. -/
theorem declared_propagation {mode : Text}
    (read : propagation fields (path.field "mountPropagation") = .ok mode)
    (unknown : propagationOption? mode = none) :
    Fields.get? fields (.text "mountPropagation") = some (.text mode) := by
  have declared := propagation_ok read
  cases found : Fields.get? fields (.text "mountPropagation") with
  | none =>
      rw [found, Option.getD_none] at declared
      obtain rfl : "None" = mode := by simpa using declared
      contradiction
  | some v => rw [found, Option.getD_some] at declared; rw [declared]

section

variable {volumes : Volumes} (undeclared : ∀ name, volumes.get? name = none →
  ∃ kind, WorkloadKind.ofManifest document = .ok kind ∧
    ∀ item ∈ podItems (.map document) kind "volumes", item.get? "name" ≠ some (.text name))

include undeclared

theorem mount_blames (here : Located document path (.map fields)) :
    FailsOnly (PolicyError.BlamesField document) (mount volumes path (.map fields)) := by
  refine (here.string (by decide)).bind fun destination => ?_
  refine (propagation_blames here).bind_ok fun mode spread => ?_
  refine (here.string (by decide)).bind_ok fun name named => ?_
  split
  · rename_i missing
    exact fails_only_error (here.blames (.field "name") (by decide) trivial
      ⟨present_of_get (string_ok_iff.mp named), undeclared name missing⟩ (by simp))
  · rename_i volume found
    -- the flag is read only where the volume leaves it open
    cases known : propagationOption? mode with
    | none =>
        have refused : FailsOnly (PolicyError.BlamesField document) (.error (PolicyError.atField
            (path.field "mountPropagation") (.unknownPropagation mode)) : Read Mount) :=
          fails_only_error (here.blames (.field "mountPropagation") (by decide) trivial
            ⟨declared_propagation spread known, unknown_propagation known⟩ (by simp))
        simp only
        split
        · exact refused
        · exact (here.flag (by decide)).bind fun _ => refused
    | some option =>
        simp only
        split
        · exact fails_only_ok _
        · exact (here.flag (by decide)).bind fun _ => fails_only_ok _

theorem mounts_blames (here : Located document entry.path (.map entry.fields)) :
    FailsOnly (PolicyError.BlamesField document) (entry.mounts volumes) := by
  refine here.each_item (by decide) fun items index item list within => ?_
  cases item with
  | map fields => exact mount_blames undeclared (list.item within)
  | _ => exact list.item_misshapen within (by simp) "volumeMount"

end

/-! Environment -/

theorem of_no_manifest_error {failure : Failure} (other : ∀ e, failure ≠ .policy (.manifest e)) :
    failure.BlamesField document := fun e same => absurd same (other e)

theorem config_map_value_blames {reference : Value} (here : Located document path (.map fields))
    (found : Fields.get? fields (.text "configMapKeyRef") = some reference) :
    (entry.configMapValue reference (path.field "configMapKeyRef")).FailsIn world
      (Failure.BlamesField document) := by
  have place := here.field (by decide) found
  have refused (unfit : ¬ Shape.mapping.Fits reference) : FailsOnly (PolicyError.BlamesField document)
      (.error (PolicyError.atField (path.field "configMapKeyRef") (.referenceNotMapping "configMapKeyRef")) :
        Read Text) :=
    fails_only_error (here.blames (.field "configMapKeyRef") (by decide) trivial
      ⟨rfl, reference, found, unfit⟩ (by simp))
  cases reference with
  | map inner =>
      refine (fails_in_blames (place.string (by decide))).bind fun map => ?_
      refine (fails_in_blames (place.string (by decide))).bind fun key => ?_
      split
      · refine Compile.fails_in_of_except fun failure failed => ?_
        obtain rfl := Except.error.inj failed
        exact of_no_manifest_error (by simp)
      · exact (ClusterSettings.value_fails _ _ map key).weaken fun failure => of_no_manifest_error
  | _ => exact fails_in_blames (refused (by simp [Shape.Fits]))

theorem reference_rule_blames {name : Text} (here : Located document path (.map fields)) :
    (entry.referenceRule fields name (path.field "valueFrom")).FailsIn world
      (Failure.BlamesField document) := by
  refine (fails_in_blames (here.mapping (by decide))).bind_ran fun session sources middle ran => ?_
  cases sources with
  | none => exact Compile.fails_in_pure _
  | some sources =>
      have found := present_of_get (mapping_some_iff.mp (Outcome.map_error_ok_iff.mp (congrArg Prod.fst ran)))
      have place := here.field (by decide) found
      simp only
      split
      · rename_i reference found
        exact (config_map_value_blames place found).bind fun value => Compile.fails_in_pure _
      · rename_i noConfigMap
        split
        · exact Compile.fails_in_pure _
        · rename_i noLaunchTime
          split
          · rename_i listed sorted
            split
            · refine fails_in_blames (fails_only_error ?_)
              refine here.blames (.field "valueFrom") (by decide) trivial
                ⟨sources, found, sorted, ?_⟩ (by simp)
              refine List.forall_mem_cons.mpr ⟨by rw [Fields.contains, noConfigMap]; rfl, ?_⟩
              simpa using noLaunchTime
            · refine Compile.fails_in_of_fault fun fault failed => of_no_manifest_error (by simp)
          · refine Compile.fails_in_of_fault fun fault failed => of_no_manifest_error (by simp)

theorem environment_rule_blames {items : List Value} {index : Nat} {item : Value}
    (list : Located document path (.list items)) (within : items[index]? = some item) :
    (entry.environmentRule (path.item index) item).FailsIn world (Failure.BlamesField document) := by
  rw [environmentRule.eq_def]
  split
  · have place := list.item within
    refine (fails_in_blames (place.string (by decide))).bind fun name => ?_
    split
    · exact (fails_in_blames (place.string (by decide))).bind fun value => Compile.fails_in_pure _
    · exact reference_rule_blames place
  · rename_i other
    exact fails_in_blames (list.item_misshapen within other "env")

theorem environment_blames (here : Located document entry.path (.map entry.fields)) :
    entry.environment.FailsIn world (Failure.BlamesField document) := by
  refine (fails_in_blames (here.sequence (by decide))).bind_ran fun session items middle ran => ?_
  have listed := Outcome.map_error_ok_iff.mp (congrArg Prod.fst ran)
  refine Compile.fails_in_map_m fun (item, index) member => ?_
  have within := List.mem_zipIdx_iff_getElem?.mp member
  exact environment_rule_blames (here.list (by decide) listed within) within

end ContainerEntry

/-! The annotation of the pod -/

namespace Manifest

variable {document fields : Fields} {path : FieldPath}

theorem annotate_metadata_blames (here : Located document path (.map fields)) (policy : String) :
    FailsOnly (PolicyError.BlamesField document) (annotateMetadata fields path policy) := by
  rw [annotateMetadata]
  split
  · exact fails_only_ok _
  · exact fails_only_ok _
  · rename_i notNull notMap
    refine fails_only_error (here.blames (.field "annotations") (by decide) trivial ?_ (by simp))
    cases found : Fields.get? fields (.text "annotations") with
    | none => exact absurd (by rw [found]; rfl) notNull
    | some v =>
        refine ⟨v, found, fun fits => ?_⟩
        obtain ⟨inner, rfl⟩ := Shape.fits_mapping_iff.mp fits
        exact notMap inner (by rw [found]; rfl)

theorem annotate_pod_blames (here : Located document path (.map fields)) (policy : String) :
    FailsOnly (PolicyError.BlamesField document) (annotatePod fields path policy) := by
  rw [annotatePod]
  cases found : Fields.get? fields (.text "metadata") with
  | none => exact fails_only_ok _
  | some v =>
      rw [Option.getD_some]
      split
      · exact (annotate_metadata_blames (here.field (by decide) found) policy).bind fun _ => fails_only_ok _
      · rename_i other
        refine fails_only_error (here.blames (.field "metadata") (by decide) trivial
          ⟨v, found, fun fits => ?_⟩ (by simp))
        obtain ⟨inner, rfl⟩ := Shape.fits_mapping_iff.mp fits
        exact other inner rfl

/-- Where there is a field of the pod, there are the mappings on the way to it. -/
theorem annotate_at_blames {names : List String} {name : String} {v : Value}
    (here : Located document path (.map fields))
    (plain : ∀ name ∈ names, PathStep.Plain (.field name))
    (reached : (Value.map fields).at? (names ++ [name]) = some v) (policy : String) :
    FailsOnly (PolicyError.BlamesField document) (annotateAt policy path names fields) := by
  induction names generalizing path fields with
  | nil => exact annotate_pod_blames here policy
  | cons first names ih =>
      obtain ⟨plainFirst, plain⟩ := List.forall_mem_cons.mp plain
      rw [List.cons_append, Value.at?, Value.get?] at reached
      obtain ⟨next, found, reached⟩ := Option.bind_eq_some_iff.mp reached
      rw [annotateAt]
      cases next with
      | map inner =>
          rw [found]
          exact (ih (here.field plainFirst found) plain reached).bind fun _ => fails_only_ok _
      | _ => cases names <;> simp [Value.at?, Value.get?] at reached

theorem annotate_blames {cluster : Option ClusterSettings} {workload : Workload}
    (read : Workload.ofDocument (.map document) cluster = .ok workload) (policy : String) :
    FailsOnly (PolicyError.BlamesField document) (annotate document workload.kind policy) := by
  obtain ⟨fields, spec, same, -, found, -⟩ := Workload.of_document_ok read
  have plain : ∀ name ∈ workload.kind.templatePath, PathStep.Plain (.field name) := fun name member =>
    Workload.pod_spec_path_plain workload.kind name (List.mem_append_left _ member)
  exact annotate_at_blames (Located.root document) plain found policy

end Manifest

/-- The ways in which an entry of a workload raises an error of the manifest when it is asked for what
it declares. -/
inductive ContainerEntry.Raises (entry : ContainerEntry) (volumes : Volumes) (world : World)
    (e : ManifestError) : Prop
  | name (failed : entry.name = .error (.manifest e))
  | image (failed : entry.image = .error (.manifest e))
  | securityContext (failed : entry.securityContext = .error (.manifest e))
  | tty (failed : entry.tty = .error (.manifest e))
  | environment {session after : Session}
      (failed : entry.environment.run world session = (.error (.policy (.manifest e)), after))
  | entryPoint (failed : entry.entryPoint = .error (.manifest e))
  | mounts (failed : entry.mounts volumes = .error (.manifest e))

/-- The ways in which a manifest leads to an error of its own: its workload cannot be read, or one of
the containers cannot be, or the policy cannot be set in it. -/
inductive Manifest.Raises (document : Fields) (cluster : Option ClusterSettings) (world : World)
    (e : ManifestError) : Prop
  | extracting {session after : Session}
      (failed : (Workload.extract (.map document) cluster).run world session =
        (.error (.policy (.manifest e)), after))
  | asking {workload : Workload} {entry : ContainerEntry}
      (read : Workload.ofDocument (.map document) cluster = .ok workload)
      (member : entry ∈ workload.containers ++ workload.initContainers)
      (failed : entry.Raises workload.volumes world e)
  | annotating {workload : Workload} {policy : String}
      (read : Workload.ofDocument (.map document) cluster = .ok workload)
      (failed : annotate document workload.kind policy = .error (.manifest e))

/-- Whenever a manifest leads to an error, the path of the error leads to the field at fault. -/
theorem errors_blame_field {document : Fields} {cluster : Option ClusterSettings} {world : World}
    {e : ManifestError} (raised : Manifest.Raises document cluster world e) : e.Blames document := by
  cases raised with
  | extracting failed =>
      rcases Compile.run_bind_error_iff.mp failed with failed | ⟨workload, middle, -, failed⟩
      · obtain ⟨error, failed, same⟩ := Outcome.map_error_error_iff.mp (congrArg Prod.fst failed)
        exact Workload.of_fields_blames document cluster error failed e (Failure.policy.inj same)
      · rw [Compile.run_note_bind] at failed
        exact absurd (congrArg Prod.fst failed) (by simp)
  | asking read member failed =>
      have here := Workload.entry_located read member
      cases failed with
      | name failed => exact ContainerEntry.name_blames here _ failed e rfl
      | image failed => exact ContainerEntry.image_blames here _ failed e rfl
      | securityContext failed => exact ContainerEntry.security_context_blames here _ failed e rfl
      | tty failed => exact ContainerEntry.tty_blames here _ failed e rfl
      | environment failed => exact ContainerEntry.environment_blames here _ _ _ failed e rfl
      | entryPoint failed => exact ContainerEntry.entry_point_blames here _ failed e rfl
      | mounts failed =>
          exact ContainerEntry.mounts_blames (fun _ => Workload.undeclared read) here _ failed e rfl
  | annotating read failed => exact Manifest.annotate_blames read _ _ failed e rfl

/-- An entry, the second of a deployment, that gives a number where a variable's value must be. -/
def entryWithNumber : ContainerEntry where
  fields :=
    [(.text "name", .text "log"),
      (.text "env", .list [.object [("name", .text "A"), ("value", .text "1")],
        .object [("name", .text "B"), ("value", .int 2)]])]
  path := ((FieldPath.ofFields ["spec", "template", "spec"]).field "containers").item 1

def deploymentWithNumber : Fields :=
  let first := Value.object [("name", .text "app")]
  let spec := Value.object [("containers", .list [first, .map entryWithNumber.fields])]
  [(.text "kind", .text "Deployment"), (.text "spec", .object [("template", .object [("spec", spec)])])]

theorem number_for_value_blamed :
    ∃ e : ManifestError, Manifest.Raises deploymentWithNumber none .silent e ∧
      e.fieldPath? Fault.text = some "spec.template.spec.containers[1].env[1].value" ∧
      e.Blames deploymentWithNumber := by
  let first : ContainerEntry :=
    { fields := [(.text "name", .text "app")]
      path := ((FieldPath.ofFields ["spec", "template", "spec"]).field "containers").item 0 }
  have read : Workload.ofDocument (.map deploymentWithNumber) none =
      .ok { kind := .deployment, containers := [first, entryWithNumber] } := by decide +kernel
  have member : entryWithNumber ∈ [first, entryWithNumber] ++ [] := by simp
  have failed : entryWithNumber.environment.run .silent {} =
      (.error (.policy (.manifest ⟨.notShaped "value" .string,
        some (((entryWithNumber.path.field "env").item 1).field "value")⟩)), {}) := by decide +kernel
  exact ⟨_, .asking read member (.environment failed), by decide +kernel,
    errors_blame_field (.asking read member (.environment failed))⟩

end LaunchPolicy
