import LaunchPolicy.Manifest.Annotation
import LaunchPolicy.Proofs.Manifest.Alike
import LaunchPolicy.Proofs.Manifest.Workload
import LaunchPolicy.Proofs.Session.Agree

/-!
Fields that need not be there. A workload is read as the same one from a manifest in which such a
field is null and from one that lacks it, up to the containers' own entries, which then declare the
same. Three fields are apart: they may be missing but not null.
-/

namespace LaunchPolicy

open Manifest
open Outcome (Agree)

/-- Fields of a container that need not be there. -/
inductive ContainerOption where
  | securityContext
  | privileged
  | allowPrivilegeEscalation
  | tty
  | env
  | workingDir
  | command
  | args
  | volumeMounts
  | value (index : Nat)
  | valueFrom (index : Nat)
  | readOnly (mount : Nat)
  | mountPropagation (mount : Nat)
deriving DecidableEq, Repr

namespace ContainerOption

def key : ContainerOption → String
  | securityContext => "securityContext"
  | privileged => "privileged"
  | allowPrivilegeEscalation => "allowPrivilegeEscalation"
  | tty => "tty"
  | env => "env"
  | workingDir => "workingDir"
  | command => "command"
  | args => "args"
  | volumeMounts => "volumeMounts"
  | value _ => "value"
  | valueFrom _ => "valueFrom"
  | readOnly _ => "readOnly"
  | mountPropagation _ => "mountPropagation"

/-- The way from the container to the mapping that has the field. -/
def holder : ContainerOption → List PathStep
  | privileged | allowPrivilegeEscalation => [.field "securityContext"]
  | value i | valueFrom i => [.field "env", .item i]
  | readOnly i | mountPropagation i => [.field "volumeMounts", .item i]
  | _ => []

/-- The field may be missing and must not be null. -/
def NotNull : ContainerOption → Prop
  | value _ | mountPropagation _ => True
  | _ => False

end ContainerOption

/-- Fields of a manifest that need not be there. -/
inductive OptionalField where
  | metadata
  | name
  | space
  | annotations
  | volumes
  | containers
  | initContainers
  | container (index : Nat) (option : ContainerOption)
  | initContainer (index : Nat) (option : ContainerOption)
  /-- Of the pod or its template. -/
  | podMetadata
  | podAnnotations
deriving DecidableEq, Repr

namespace OptionalField

def key : OptionalField → String
  | metadata | podMetadata => "metadata"
  | name => "name"
  | space => "namespace"
  | annotations | podAnnotations => "annotations"
  | volumes => "volumes"
  | containers => "containers"
  | initContainers => "initContainers"
  | container _ option | initContainer _ option => option.key

/-- The way from the root of a manifest to the mapping that has the field. -/
def holder (kind : WorkloadKind) : OptionalField → List PathStep
  | metadata => []
  | name | space | annotations => [.field "metadata"]
  | volumes | containers | initContainers => kind.podSpecPath.map .field
  | container i option =>
      kind.podSpecPath.map .field ++ ([.field "containers", .item i] ++ option.holder)
  | initContainer i option =>
      kind.podSpecPath.map .field ++ ([.field "initContainers", .item i] ++ option.holder)
  | podMetadata => kind.templatePath.map .field
  | podAnnotations => kind.templatePath.map .field ++ [.field "metadata"]

/-- The field may be missing and must not be null. The metadata of a pod are those of its manifest. -/
def NotNull (kind : WorkloadKind) : OptionalField → Prop
  | metadata => kind = .pod
  | podMetadata => True
  | container _ option | initContainer _ option => option.NotNull
  | _ => False

end OptionalField

/-! Readers that ask for fields that are present -/

namespace Manifest

variable {fields others : Fields} {key : String}

theorem mapping_present (same : present? fields key = present? others key) (path : FieldPath) :
    mapping? fields key path = mapping? others key path := by rw [mapping?, mapping?, same]

theorem sequence_present (same : present? fields key = present? others key) (path : FieldPath) :
    sequence fields key path = sequence others key path := by rw [sequence, sequence, same]

theorem string_present (same : present? fields key = present? others key) (path : FieldPath) :
    string fields key path = string others key path := by rw [string, string, same]

theorem optional_string_present (same : present? fields key = present? others key) (path : FieldPath) :
    optionalString fields key path = optionalString others key path := by
  rw [optionalString, optionalString, same]

theorem flag_present (same : present? fields key = present? others key) (path : FieldPath) :
    flag fields key path = flag others key path := by rw [flag, flag, same]

theorem strings_present (same : present? fields key = present? others key) (path : FieldPath) :
    strings fields key path = strings others key path := by
  rw [strings, strings, sequence_present same]

/-- Items that are read alike, one by one and wherever they stand, are read alike. -/
theorem each_item_congr {m : Type → Type} [Monad m] [LawfulMonad m] {α : Type} {path : FieldPath}
    {items more : List Value} {related : Value → Value → Prop} {read : FieldPath → Value → m α}
    (all : List.Forall₂ related items more)
    (each : ∀ itemPath v w, related v w → read itemPath v = read itemPath w) :
    eachItem path items read = eachItem path more read := by
  refine Outcome.map_m_congr ((Outcome.related_numbered all 0).imp ?_)
  rintro ⟨v, i⟩ ⟨w, j⟩ ⟨rfl, this⟩
  exact each _ v w this

theorem each_item_agree {α β : Type} {path : FieldPath} {items more : List Value}
    {related : Value → Value → Prop} {relatedNext : α → β → Prop} {read : FieldPath → Value → Read α}
    {readToo : FieldPath → Value → Read β} (all : List.Forall₂ related items more)
    (each : ∀ itemPath v w, related v w → Agree relatedNext (read itemPath v) (readToo itemPath w)) :
    Agree (List.Forall₂ relatedNext) (eachItem path items read) (eachItem path more readToo) := by
  refine Outcome.map_m_agree ((Outcome.related_numbered all 0).imp ?_)
  rintro ⟨v, i⟩ ⟨w, j⟩ ⟨rfl, this⟩
  exact each _ v w this

/-- A list in a field by which a path goes on. -/
theorem sequence_agree {index : Nat} {rest : List PathStep}
    (alike : Value.Alike (.field key :: .item index :: rest) (.map fields) (.map others))
    (path : FieldPath) : Agree (List.Forall₂ (Value.Alike rest)) (sequence fields key path)
      (sequence others key path) := by
  have same (equal : sequence fields key path = sequence others key path) :
      Agree (List.Forall₂ (Value.Alike rest)) (sequence fields key path)
        (sequence others key path) := by
    rw [equal]
    exact .refl (fun items => List.forall₂_same.mpr fun v _ => .same rest v) _
  rcases alike.field_cases with equal | ⟨v, w, left, right, inner⟩
  · apply same
    rw [sequence, sequence, present?, present?, equal]
  · cases inner with
    | same => exact same (by rw [sequence, sequence, present?, present?, left, right])
    | item leftItem rightItem innerItem apart =>
        have listed := (Value.Alike.item leftItem rightItem innerItem apart).items
        rw [sequence, sequence, present?, present?, left, right]
        exact .ok listed

end Manifest

/-! Entries of containers -/

namespace ContainerEntry

/-- Two entries of one place declare the same. -/
structure Alike (entry other : ContainerEntry) : Prop where
  name : entry.name = other.name
  image : entry.image = other.image
  securityContext : entry.securityContext = other.securityContext
  tty : entry.tty = other.tty
  entryPoint : entry.entryPoint = other.entryPoint
  environment : entry.environment = other.environment
  mounts : ∀ volumes, entry.mounts volumes = other.mounts volumes

theorem Alike.refl (entry : ContainerEntry) : entry.Alike entry :=
  ⟨rfl, rfl, rfl, rfl, rfl, rfl, fun _ => rfl⟩

variable {fields others : Fields} {path : FieldPath} {space : Option Text}
  {cluster : Option ClusterSettings}

/-- A rule of the environment depends on the namespace and the cluster, and on nothing else of the
entry. -/
theorem environment_rule_entry :
    environmentRule ⟨fields, path, space, cluster⟩ = environmentRule ⟨others, path, space, cluster⟩ := rfl

theorem environment_congr {related : Value → Value → Prop}
    (listed : ∀ path, Agree (List.Forall₂ related) (sequence fields "env" path) (sequence others "env" path))
    (each : ∀ itemPath v w, related v w → environmentRule ⟨others, path, space, cluster⟩ itemPath v =
      environmentRule ⟨others, path, space, cluster⟩ itemPath w) :
    environment ⟨fields, path, space, cluster⟩ = environment ⟨others, path, space, cluster⟩ :=
  Compile.of_policy_bind_eq (listed _) fun _ _ all => each_item_congr all each

theorem mounts_congr {related : Value → Value → Prop} {volumes : Volumes}
    (listed : ∀ path, Agree (List.Forall₂ related) (sequence fields "volumeMounts" path)
      (sequence others "volumeMounts" path))
    (each : ∀ itemPath v w, related v w → mount volumes itemPath v = mount volumes itemPath w) :
    mounts ⟨fields, path, space, cluster⟩ volumes = mounts ⟨others, path, space, cluster⟩ volumes :=
  (listed _).bind_eq fun _ _ all => each_item_congr all each

/-- What each field says of its own. -/
theorem alike_of_simple
    (simple : ∀ key ∈ ["name", "image", "tty", "workingDir", "command", "args"],
      present? fields key = present? others key)
    (context : securityContext ⟨fields, path, space, cluster⟩ =
      securityContext ⟨others, path, space, cluster⟩)
    (rules : environment ⟨fields, path, space, cluster⟩ = environment ⟨others, path, space, cluster⟩)
    (points : ∀ volumes, mounts ⟨fields, path, space, cluster⟩ volumes =
      mounts ⟨others, path, space, cluster⟩ volumes) :
    Alike ⟨fields, path, space, cluster⟩ ⟨others, path, space, cluster⟩ where
  name := string_present (simple "name" (by simp)) _
  image := string_present (simple "image" (by simp)) _
  securityContext := context
  tty := flag_present (simple "tty" (by simp)) _
  entryPoint := by
    rw [entryPoint, entryPoint, optional_string_present (simple "workingDir" (by simp)),
      strings_present (simple "command" (by simp)), strings_present (simple "args" (by simp))]
  environment := rules
  mounts := points

theorem security_context_present
    (same : present? fields "securityContext" = present? others "securityContext") :
    securityContext ⟨fields, path, space, cluster⟩ = securityContext ⟨others, path, space, cluster⟩ := by
  rw [securityContext, securityContext, mapping_present same]

theorem environment_present (same : present? fields "env" = present? others "env") :
    environment ⟨fields, path, space, cluster⟩ = environment ⟨others, path, space, cluster⟩ := by
  rw [environment, environment, sequence_present same, environment_rule_entry]

theorem mounts_present (same : present? fields "volumeMounts" = present? others "volumeMounts")
    (volumes : Volumes) : mounts ⟨fields, path, space, cluster⟩ volumes =
      mounts ⟨others, path, space, cluster⟩ volumes := by
  rw [mounts, mounts, sequence_present same]

/-- A flag of the security context. -/
theorem security_context_alike {name : String}
    (alike : Value.Alike [.field "securityContext", .field name] (.map fields) (.map others)) :
    securityContext ⟨fields, path, space, cluster⟩ = securityContext ⟨others, path, space, cluster⟩ := by
  rcases alike.field_cases with same | ⟨v, w, left, right, inner⟩
  · exact security_context_present (by rw [present?, present?, same])
  · rcases inner.map_cases with rfl | ⟨context, other, rfl, rfl⟩
    · exact security_context_present (by rw [present?, present?, left, right])
    · rw [securityContext, securityContext, mapping?, mapping?, present?, present?, left, right]
      simp only [bind, Except.bind]
      rw [flag_present (inner.present_last _), flag_present (inner.present_last _)]

/-- The source of a variable's value. -/
theorem environment_rule_alike {entry : ContainerEntry} {itemPath : FieldPath} {v w : Value}
    (alike : Value.Alike [.field "valueFrom"] v w) :
    entry.environmentRule itemPath v = entry.environmentRule itemPath w := by
  rcases alike.map_cases with rfl | ⟨fields, others, rfl, rfl⟩
  · rfl
  · have literal : Fields.contains fields (.text "value") = Fields.contains others (.text "value") := by
      rw [Fields.contains, Fields.contains, alike.get_apart (by decide)]
    have source (name : Text) (path : FieldPath) :
        entry.referenceRule fields name path = entry.referenceRule others name path := by
      rw [referenceRule, referenceRule, mapping_present (alike.present_last _)]
    simp only [environmentRule, string_present (alike.present_last _), literal, source]

/-- The flag of a mount. -/
theorem mount_alike {volumes : Volumes} {itemPath : FieldPath} {v w : Value}
    (alike : Value.Alike [.field "readOnly"] v w) : mount volumes itemPath v = mount volumes itemPath w := by
  rcases alike.map_cases with rfl | ⟨fields, others, rfl, rfl⟩
  · rfl
  · have mode (path : FieldPath) : propagation fields path = propagation others path := by
      rw [propagation, propagation, alike.get_apart (by decide)]
    simp only [mount, string_present (alike.present_last _), mode, flag_present (alike.present_last _)]

/-- A field that need not be there makes no difference to an entry when it is null. -/
theorem alike_of_option {option : ContainerOption} (lenient : ¬ option.NotNull)
    (alike : Value.Alike (option.holder ++ [.field option.key]) (.map fields) (.map others)) :
    Alike ⟨fields, path, space, cluster⟩ ⟨others, path, space, cluster⟩ := by
  have of_last {key : String} (alike : Value.Alike [.field key] (.map fields) (.map others)) :
      Alike ⟨fields, path, space, cluster⟩ ⟨others, path, space, cluster⟩ :=
    alike_of_simple (fun _ _ => alike.present_last _) (security_context_present (alike.present_last _))
      (environment_present (alike.present_last _)) (mounts_present (alike.present_last _))
  have of_context {key : String}
      (alike : Value.Alike [.field "securityContext", .field key] (.map fields) (.map others)) :
      Alike ⟨fields, path, space, cluster⟩ ⟨others, path, space, cluster⟩ :=
    alike_of_simple (fun key member => alike.present_apart (ne_of_mem_of_not_mem member (by decide)))
      (security_context_alike alike) (environment_present (alike.present_apart (by decide)))
      (mounts_present (alike.present_apart (by decide)))
  cases option with
  | securityContext | tty | env | workingDir | command | args | volumeMounts => exact of_last alike
  | privileged | allowPrivilegeEscalation => exact of_context alike
  | value i | mountPropagation i => exact absurd trivial lenient
  | valueFrom i =>
      exact alike_of_simple
        (fun key member => alike.present_apart (ne_of_mem_of_not_mem member (by decide)))
        (security_context_present (alike.present_apart (by decide)))
        (environment_congr (sequence_agree alike) fun _ _ _ => environment_rule_alike)
        (mounts_present (alike.present_apart (by decide)))
  | readOnly i =>
      exact alike_of_simple
        (fun key member => alike.present_apart (ne_of_mem_of_not_mem member (by decide)))
        (security_context_present (alike.present_apart (by decide)))
        (environment_present (alike.present_apart (by decide)))
        (fun _ => mounts_congr (sequence_agree alike) fun _ _ _ => mount_alike)

end ContainerEntry

/-! Workloads -/

namespace Workload

/-- Two workloads of which only the containers' entries may differ, and these declare the same. -/
structure Alike (workload other : Workload) : Prop where
  kind : workload.kind = other.kind
  name : workload.name = other.name
  space : workload.space = other.space
  volumes : workload.volumes = other.volumes
  containers : List.Forall₂ ContainerEntry.Alike workload.containers other.containers
  initContainers : List.Forall₂ ContainerEntry.Alike workload.initContainers other.initContainers

variable {fields others : Fields} {path : FieldPath} {cluster : Option ClusterSettings}
  {space : Option Text} {key : String}

theorem read_containers_refl (spec : Fields) : Agree (List.Forall₂ ContainerEntry.Alike)
    (readContainers spec key path space cluster) (readContainers spec key path space cluster) :=
  .refl (fun _ => List.forall₂_same.mpr fun entry _ => .refl entry) _

theorem read_containers_present (same : present? fields key = present? others key) :
    Agree (List.Forall₂ ContainerEntry.Alike) (readContainers fields key path space cluster)
      (readContainers others key path space cluster) := by
  rw [readContainers, readContainers, sequence_present same]
  exact read_containers_refl others

theorem read_volumes_present (same : present? fields "volumes" = present? others "volumes") :
    readVolumes fields path = readVolumes others path := by
  rw [readVolumes, readVolumes, sequence_present same]

/-- Entries are read as such whatever their fields are. -/
theorem of_value_alike {option : ContainerOption} (lenient : ¬ option.NotNull) {v w : Value}
    (alike : Value.Alike (option.holder ++ [.field option.key]) v w) :
    Agree ContainerEntry.Alike (ContainerEntry.ofValue v path space cluster)
      (ContainerEntry.ofValue w path space cluster) := by
  have cases_ : v = w ∨ ∃ fields others, v = .map fields ∧ w = .map others := by
    cases option <;> exact alike.map_cases
  rcases cases_ with rfl | ⟨fields, others, rfl, rfl⟩
  · exact .refl ContainerEntry.Alike.refl _
  · exact .ok (ContainerEntry.alike_of_option lenient alike)

theorem read_containers_alike {index : Nat} {option : ContainerOption} (lenient : ¬ option.NotNull)
    (alike : Value.Alike (.field key :: .item index :: (option.holder ++ [.field option.key]))
      (.map fields) (.map others)) :
    Agree (List.Forall₂ ContainerEntry.Alike) (readContainers fields key path space cluster)
      (readContainers others key path space cluster) := by
  exact (sequence_agree alike _).bind fun items more all =>
    each_item_agree all fun _ _ _ => of_value_alike lenient

/-- Pods that are read alike. -/
structure PodAlike (space : Option Text) (cluster : Option ClusterSettings) (path : FieldPath)
    (spec other : Fields) : Prop where
  volumes : readVolumes spec path = readVolumes other path
  containers : Agree (List.Forall₂ ContainerEntry.Alike)
    (readContainers spec "containers" path space cluster)
    (readContainers other "containers" path space cluster)
  initContainers : Agree (List.Forall₂ ContainerEntry.Alike)
    (readContainers spec "initContainers" path space cluster)
    (readContainers other "initContainers" path space cluster)

theorem PodAlike.refl (space : Option Text) (cluster : Option ClusterSettings) (path : FieldPath)
    (spec : Fields) : PodAlike space cluster path spec spec :=
  ⟨rfl, read_containers_refl spec, read_containers_refl spec⟩

theorem pod_alike_of_list (alike : Value.Alike [.field key] (.map fields) (.map others)) :
    PodAlike space cluster path fields others :=
  ⟨read_volumes_present (alike.present_last _), read_containers_present (alike.present_last _),
    read_containers_present (alike.present_last _)⟩

theorem pod_alike_of_container {index : Nat} {option : ContainerOption} (lenient : ¬ option.NotNull)
    (alike : Value.Alike (.field "containers" :: .item index :: (option.holder ++ [.field option.key]))
      (.map fields) (.map others)) : PodAlike space cluster path fields others :=
  ⟨read_volumes_present (alike.present_apart (by decide)), read_containers_alike lenient alike,
    read_containers_present (alike.present_apart (by decide))⟩

theorem pod_alike_of_init_container {index : Nat} {option : ContainerOption}
    (lenient : ¬ option.NotNull)
    (alike : Value.Alike (.field "initContainers" :: .item index :: (option.holder ++ [.field option.key]))
      (.map fields) (.map others)) : PodAlike space cluster path fields others :=
  ⟨read_volumes_present (alike.present_apart (by decide)),
    read_containers_present (alike.present_apart (by decide)), read_containers_alike lenient alike⟩

/-! The way to the pod -/

theorem descend_append {problem : ManifestProblem} (names more : List String) (fields : Fields) :
    descend problem path (names ++ more) fields =
      descend problem path names fields >>= descend problem (names.foldl FieldPath.field path) more := by
  induction names generalizing path fields with
  | nil => rfl
  | cons name names ih =>
      rw [List.cons_append, descend, descend]
      split
      · exact ih _
      · rfl

/-- Whoever goes the whole way or turns off it finds the same. -/
theorem descend_alike {problem : ManifestProblem} {names : List String} {step : PathStep}
    {rest : List PathStep}
    (alike : Value.Alike (names.map .field ++ step :: rest) (.map fields) (.map others)) :
    Agree (fun spec other => Value.Alike (step :: rest) (.map spec) (.map other))
      (descend problem path names fields) (descend problem path names others) := by
  induction names generalizing path fields others with
  | nil => exact .ok alike
  | cons name names ih =>
      rw [descend, descend]
      rcases alike.step_cases with same | ⟨inner, other, left, right, alike⟩ | ⟨notMap, notMapToo⟩
      · rw [same]
        exact .refl (fun spec => .same _ _) _
      · rw [left, right]
        exact ih alike
      · split
        · rename_i found
          exact absurd found (notMap _)
        · exact .error _

/-- The pod's specification is another field of the pod than its metadata. -/
theorem pod_alike_of_apart {kind : WorkloadKind} {name : String} {rest : List PathStep}
    (different : "spec" ≠ name)
    (alike : Value.Alike (kind.templatePath.map .field ++ .field name :: rest) (.map fields) (.map others)) :
    descend .noPodSpec {} kind.podSpecPath fields = descend .noPodSpec {} kind.podSpecPath others := by
  rw [WorkloadKind.podSpecPath, descend_append, descend_append]
  refine (descend_alike alike).bind_eq fun spec other inner => ?_
  rw [descend, descend, inner.get_apart different]

/-- The parts of two manifests of a kind that are read alike. -/
theorem of_fields_agree {kind : WorkloadKind} (classified : WorkloadKind.ofManifest fields = .ok kind)
    (sameKind : fields.get? (.text "kind") = others.get? (.text "kind"))
    (metadata : Agree (fun known other => ∀ key,
        present? (Option.getD known []) key = present? (Option.getD other []) key)
      (mapping? fields "metadata" (.ofFields ["metadata"]))
      (mapping? others "metadata" (.ofFields ["metadata"])))
    (pod : ∀ space, Agree (PodAlike space cluster (.ofFields kind.podSpecPath))
      (descend .noPodSpec {} kind.podSpecPath fields) (descend .noPodSpec {} kind.podSpecPath others)) :
    Agree Alike (ofFields fields cluster) (ofFields others cluster) := by
  have classifiedToo : WorkloadKind.ofManifest others = .ok kind := by
    rw [← classified, WorkloadKind.ofManifest, WorkloadKind.ofManifest, sameKind]
  rw [ofFields, ofFields, classified, classifiedToo]
  refine metadata.bind fun known other same => ?_
  dsimp only
  rw [optional_string_present (same "name"), optional_string_present (same "namespace")]
  refine Agree.bind_same fun name => Agree.bind_same fun space => ?_
  refine (pod (if space = "" then none else some space)).bind fun spec otherSpec alike => ?_
  rw [alike.volumes]
  refine Agree.bind_same fun volumes => ?_
  refine alike.containers.bind fun containers otherContainers all => ?_
  exact alike.initContainers.bind fun initContainers otherInit allInit =>
    .ok ⟨rfl, rfl, rfl, rfl, all, allInit⟩

theorem metadata_refl {fields : Fields} : Agree (fun known other : Option Fields => ∀ key,
      present? (known.getD []) key = present? (other.getD []) key)
    (mapping? fields "metadata" path) (mapping? fields "metadata" path) :=
  .refl (fun _ _ => rfl) _

/-- A field of the metadata. -/
theorem metadata_alike {name : String}
    (alike : Value.Alike [.field "metadata", .field name] (.map fields) (.map others)) :
    Agree (fun known other : Option Fields => ∀ key,
        present? (known.getD []) key = present? (other.getD []) key)
      (mapping? fields "metadata" path) (mapping? others "metadata" path) := by
  rcases alike.field_cases with same | ⟨v, w, left, right, inner⟩
  · have present : present? fields "metadata" = present? others "metadata" := by
      rw [present?, present?, same]
    rw [mapping_present present]
    exact metadata_refl
  · rcases inner.map_cases with rfl | ⟨known, other, rfl, rfl⟩
    · have present : present? fields "metadata" = present? others "metadata" := by
        rw [present?, present?, left, right]
      rw [mapping_present present]
      exact metadata_refl
    · rw [mapping?, mapping?, present?, present?, left, right]
      exact .ok inner.present_last

/-- A field of the metadata of the manifest is no part of its pod. -/
theorem of_fields_agree_top {kind : WorkloadKind} {name : String} {rest : List PathStep}
    (classified : WorkloadKind.ofManifest fields = .ok kind) (different : "spec" ≠ name)
    (noKind : "kind" ≠ name) (alike : Value.Alike (.field name :: rest) (.map fields) (.map others))
    (metadata : Agree (fun known other => ∀ key,
        present? (Option.getD known []) key = present? (Option.getD other []) key)
      (mapping? fields "metadata" (.ofFields ["metadata"]))
      (mapping? others "metadata" (.ofFields ["metadata"]))) :
    Agree Alike (ofFields fields cluster) (ofFields others cluster) := by
  refine of_fields_agree classified (alike.get_apart noKind) metadata fun space => ?_
  have same : descend .noPodSpec {} kind.podSpecPath fields =
      descend .noPodSpec {} kind.podSpecPath others := by
    cases kind <;>
      (simp only [WorkloadKind.podSpecPath, WorkloadKind.templatePath, List.nil_append, List.cons_append]
       rw [descend, descend, alike.get_apart different])
  rw [same]
  exact .refl (PodAlike.refl space cluster _) _

/-- A field within the pod is no part of the metadata of the manifest. -/
theorem of_fields_agree_pod {kind : WorkloadKind} {step : PathStep} {rest : List PathStep}
    (classified : WorkloadKind.ofManifest fields = .ok kind)
    (alike : Value.Alike (kind.podSpecPath.map .field ++ step :: rest) (.map fields) (.map others))
    (pods : ∀ {spec other : Fields} {space}, Value.Alike (step :: rest) (.map spec) (.map other) →
      PodAlike space cluster (.ofFields kind.podSpecPath) spec other) :
    Agree Alike (ofFields fields cluster) (ofFields others cluster) := by
  have within : ∃ more, kind.podSpecPath.map .field ++ step :: rest = .field "spec" :: more := by
    cases kind <;> exact ⟨_, rfl⟩
  obtain ⟨more, goes⟩ := within
  have top := goes ▸ alike
  refine of_fields_agree classified (top.get_apart (by decide)) ?_ fun space => ?_
  · rw [mapping_present (top.present_apart (by decide))]
    exact metadata_refl
  · exact (descend_alike alike).imp fun _ _ => pods

/-- A field that need not be there makes no difference to a workload when it is null. -/
theorem of_fields_agree_optional {kind : WorkloadKind} {field : OptionalField}
    (classified : WorkloadKind.ofManifest fields = .ok kind) (lenient : ¬ field.NotNull kind)
    (alike : Value.Alike (field.holder kind ++ [.field field.key]) (.map fields) (.map others)) :
    Agree Alike (ofFields fields cluster) (ofFields others cluster) := by
  cases field with
  | metadata =>
      refine of_fields_agree_top classified (by decide) (by decide) alike ?_
      rw [mapping_present (alike.present_last _)]
      exact metadata_refl
  | name | space | annotations =>
      exact of_fields_agree_top classified (by decide) (by decide) alike (metadata_alike alike)
  | podMetadata => exact absurd trivial lenient
  | podAnnotations =>
      rw [OptionalField.holder, List.append_assoc] at alike
      have sameSpec : descend .noPodSpec {} kind.podSpecPath fields =
          descend .noPodSpec {} kind.podSpecPath others := pod_alike_of_apart (by decide) alike
      cases kind with
      | pod => exact of_fields_agree_top classified (by decide) (by decide) alike (metadata_alike alike)
      | job | deployment | replicationController =>
          refine of_fields_agree classified (alike.get_apart (by decide)) ?_ fun space => ?_
          · rw [mapping_present (alike.present_apart (by decide))]
            exact metadata_refl
          · rw [sameSpec]
            exact .refl (PodAlike.refl space cluster _) _
  | volumes | containers | initContainers =>
      exact of_fields_agree_pod classified alike pod_alike_of_list
  | container i option =>
      rw [OptionalField.holder, List.append_assoc] at alike
      exact of_fields_agree_pod classified alike (pod_alike_of_container lenient)
  | initContainer i option =>
      rw [OptionalField.holder, List.append_assoc] at alike
      exact of_fields_agree_pod classified alike (pod_alike_of_init_container lenient)

end Workload

end LaunchPolicy
