import LaunchPolicy.Manifest.Workload
import LaunchPolicy.Proofs.Session.Run
import LaunchPolicy.Proofs.Value.Path
import LaunchPolicy.Proofs.Yaml.Whole

/-!
Manifests without the members of their sets. Nothing in a manifest is read from a set, so a workload
does not depend on which members the sets of its manifest have, or on their order.
-/

namespace LaunchPolicy

open Compile Manifest

namespace Value

mutual

/-- The value with all its sets emptied. -/
def hollow : Value → Value
  | .scalar s => .scalar s
  | .list items => .list (hollowItems items)
  | .pair first second => .pair (hollow first) (hollow second)
  | .set _ => .set []
  | .map fields => .map (hollowFields fields)

def hollowItems : List Value → List Value
  | [] => []
  | item :: items => hollow item :: hollowItems items

def hollowFields : List (Scalar × Value) → List (Scalar × Value)
  | [] => []
  | (key, value) :: fields => (key, hollow value) :: hollowFields fields

end

theorem hollow_list (items : List Value) : (Value.list items).hollow = .list (items.map hollow) := by
  have each : hollowItems items = items.map hollow := by
    induction items with
    | nil => rfl
    | cons item items ih => rw [hollowItems, ih, List.map_cons]
  rw [hollow, each]

end Value

/-- The fields with all sets in their values emptied. -/
def Fields.hollow (fields : Fields) : Fields := fields.map fun field => (field.1, field.2.hollow)

namespace Value

theorem hollow_map (fields : Fields) : (Value.map fields).hollow = .map fields.hollow := by
  have each : hollowFields fields = Fields.hollow fields := by
    rw [Fields.hollow]
    induction fields with
    | nil => rfl
    | cons field fields ih => rw [hollowFields, ih, List.map_cons]
  rw [hollow, each]

theorem hollow_map_parts {change : Value → Value} (commutes : ∀ v, (change v).hollow = change v.hollow)
    (v : Value) : (v.mapParts change).hollow = v.hollow.mapParts change := by
  cases v with
  | list items =>
      rw [mapParts, hollow_list, hollow_list, mapParts, List.map_map, List.map_map]
      congr 1
      refine List.map_congr_left fun item _ => ?_
      cases item with
      | pair first second => simp [hollow, commutes]
      | list items => simp only [Function.comp_apply, commutes, hollow_list]
      | map fields => simp only [Function.comp_apply, commutes, hollow_map]
      | _ => simp only [Function.comp_apply, commutes, hollow]
  | map fields =>
      rw [mapParts, hollow_map, hollow_map, mapParts, Fields.hollow, Fields.hollow, List.map_map, List.map_map]
      simp [Function.comp_def, commutes]
  | _ => rfl

theorem hollow_cut (depth : Nat) (v : Value) : (v.cut depth).hollow = v.hollow.cut depth := by
  induction depth generalizing v with
  | zero => rfl
  | succ depth ih => exact hollow_map_parts ih v

end Value

namespace Fields

theorem get_hollow (fields : Fields) (key : Scalar) :
    fields.hollow.get? key = (fields.get? key).map Value.hollow := by
  rw [hollow]
  induction fields with
  | nil => rfl
  | cons field fields ih =>
      rw [List.map_cons, get?, get?, ih]
      split <;> rfl

theorem contains_hollow (fields : Fields) (key : Scalar) : fields.hollow.contains key = fields.contains key := by
  rw [contains, contains, get_hollow, Option.isSome_map]

theorem keys_hollow (fields : Fields) : fields.hollow.map (·.1) = fields.map (·.1) := by
  simp [hollow, Function.comp_def]

end Fields

namespace Value

theorem get_hollow (v : Value) (name : String) : v.hollow.get? name = (v.get? name).map hollow := by
  cases v with
  | map fields => rw [hollow_map, get?, get?, Fields.get_hollow]
  | _ => rfl

theorem at_hollow (v : Value) (path : List String) : v.hollow.at? path = (v.at? path).map hollow := by
  induction path generalizing v with
  | nil => rfl
  | cons name names ih =>
      rw [at?, at?, get_hollow]
      cases v.get? name with
      | none => rfl
      | some inner => exact ih inner

theorem hollow_eq_null_iff {v : Value} : v.hollow = .null ↔ v = .null := by
  cases v <;> simp [hollow]

/-- A scalar is found where it is found when the sets are emptied. -/
theorem at_scalar_of_hollow {v other : Value} (same : v.hollow = other.hollow) {path : List String} {s : Scalar}
    (found : v.at? path = some (.scalar s)) : other.at? path = some (.scalar s) := by
  have emptied : (other.at? path).map hollow = some (.scalar s) := by
    rw [← at_hollow, ← same, at_hollow, found]
    rfl
  obtain ⟨inner, there, isScalar⟩ := Option.map_eq_some_iff.mp emptied
  rw [there]
  cases inner with
  | scalar t => exact congrArg some isScalar
  | _ => simp [hollow] at isScalar

end Value

/-- Documents whose trees are the same but for their sets are read alike at every depth, but for these. -/
theorem Yaml.Graph.Unshared.view_hollow_eq {g other : Yaml.Graph} (unshared : g.Unshared)
    (others : other.Unshared) (same : g.tree.hollow = other.tree.hollow) (depth : Nat) :
    (g.view depth).hollow = (other.view depth).hollow := by
  rw [unshared.view_eq_cut, others.view_eq_cut, Value.hollow_cut, Value.hollow_cut, same]

/-! Fields of a manifest -/

namespace Manifest

theorem present_hollow (fields : Fields) (key : String) :
    present? fields.hollow key = (present? fields key).map Value.hollow := by
  rw [present?, present?, Fields.get_hollow]
  cases fields.get? (.text key) with
  | none => rfl
  | some v =>
      cases v with
      | scalar s => cases s <;> rfl
      | _ => rfl

theorem mapping_hollow (fields : Fields) (key : String) (path : FieldPath) :
    mapping? fields.hollow key path = (mapping? fields key path).map (·.map Fields.hollow) := by
  rw [mapping?, mapping?, present_hollow]
  cases present? fields key with
  | none => rfl
  | some v =>
      cases v with
      | map inner => rw [Option.map_some, Value.hollow_map]; rfl
      | _ => rfl

theorem sequence_hollow (fields : Fields) (key : String) (path : FieldPath) :
    sequence fields.hollow key path = (sequence fields key path).map (·.map Value.hollow) := by
  rw [sequence, sequence, present_hollow]
  cases present? fields key with
  | none => rfl
  | some v =>
      cases v with
      | list items => rw [Option.map_some, Value.hollow_list]; rfl
      | _ => rfl

theorem string_hollow (fields : Fields) (key : String) (path : FieldPath) :
    string fields.hollow key path = string fields key path := by
  rw [string, string, present_hollow]
  cases present? fields key with
  | none => rfl
  | some v => cases v <;> rfl

theorem optional_string_hollow (fields : Fields) (key : String) (path : FieldPath) :
    optionalString fields.hollow key path = optionalString fields key path := by
  rw [optionalString, optionalString, present_hollow]
  cases present? fields key with
  | none => rfl
  | some v => cases v <;> rfl

theorem flag_hollow (fields : Fields) (key : String) (path : FieldPath) :
    flag fields.hollow key path = flag fields key path := by
  rw [flag, flag, present_hollow]
  cases present? fields key with
  | none => rfl
  | some v => cases v <;> rfl

theorem each_item_hollow {α : Type} {m : Type → Type} [Monad m] [LawfulMonad m] (path : FieldPath) (items : List Value)
    (read : FieldPath → Value → m α) :
    eachItem path (items.map Value.hollow) read = eachItem path items fun path item => read path item.hollow := by
  rw [eachItem, eachItem, List.zipIdx_map, List.mapM_map]
  rfl

theorem strings_hollow (fields : Fields) (key : String) (path : FieldPath) :
    strings fields.hollow key path = strings fields key path := by
  rw [strings, strings, sequence_hollow]
  cases sequence fields key path with
  | error e => rfl
  | ok items =>
      simp only [Except.map, bind, Except.bind, each_item_hollow]
      congr 1
      funext itemPath item
      cases item <;> rfl

end Manifest

/-! Container entries -/

namespace ContainerEntry

/-- The entry with all sets in its fields emptied. -/
def hollow (entry : ContainerEntry) : ContainerEntry := { entry with fields := entry.fields.hollow }

variable (entry : ContainerEntry)

theorem name_hollow : entry.hollow.name = entry.name := string_hollow _ _ _

theorem image_hollow : entry.hollow.image = entry.image := string_hollow _ _ _

theorem tty_hollow : entry.hollow.tty = entry.tty := flag_hollow _ _ _

theorem security_context_hollow : entry.hollow.securityContext = entry.securityContext := by
  have read : mapping? entry.hollow.fields "securityContext" (entry.hollow.path.field "securityContext") = _ :=
    mapping_hollow entry.fields "securityContext" (entry.path.field "securityContext")
  rw [securityContext, securityContext, read]
  cases mapping? entry.fields "securityContext" (entry.path.field "securityContext") with
  | error e => rfl
  | ok found =>
      cases found with
      | none => rfl
      | some context =>
          simp only [Except.map, Option.map_some, bind, Except.bind, flag_hollow]
          rfl

theorem entry_point_hollow : entry.hollow.entryPoint = entry.entryPoint := by
  simp only [entryPoint, hollow, optional_string_hollow, strings_hollow]

theorem config_map_value_hollow (reference : Value) (path : FieldPath) :
    entry.hollow.configMapValue reference.hollow path = entry.configMapValue reference path := by
  cases reference with
  | map fields => simp only [configMapValue, Value.hollow_map, string_hollow, hollow]
  | _ => rfl

theorem reference_rule_hollow (fields : Fields) (name : Text) (path : FieldPath) :
    entry.hollow.referenceRule fields.hollow name path = entry.referenceRule fields name path := by
  rw [referenceRule, referenceRule, mapping_hollow]
  cases mapping? fields "valueFrom" path with
  | error e => rfl
  | ok found =>
      cases found with
      | none => rfl
      | some sources =>
          simp only [Except.map, Option.map_some, of_policy_ok_bind, Fields.get_hollow, Fields.contains_hollow]
          cases sources.get? (.text "configMapKeyRef") with
          | some reference => simp only [Option.map_some, config_map_value_hollow]
          | none => simp only [Option.map_none, Fields.keys_hollow]

theorem environment_rule_hollow (path : FieldPath) (item : Value) :
    entry.hollow.environmentRule path item.hollow = entry.environmentRule path item := by
  cases item with
  | map fields =>
      simp only [environmentRule, Value.hollow_map, string_hollow, Fields.contains_hollow, reference_rule_hollow]
  | _ => rfl

theorem environment_hollow : entry.hollow.environment = entry.environment := by
  have read : sequence entry.hollow.fields "env" (entry.hollow.path.field "env") = _ :=
    sequence_hollow entry.fields "env" (entry.path.field "env")
  rw [environment, environment, read]
  cases sequence entry.fields "env" (entry.path.field "env") with
  | error e => rfl
  | ok items =>
      refine (each_item_hollow (entry.path.field "env") items entry.hollow.environmentRule).trans ?_
      simp only [environment_rule_hollow]
      rfl

theorem mount_hollow (volumes : Volumes) (path : FieldPath) (item : Value) :
    mount volumes path item.hollow = mount volumes path item := by
  cases item with
  | map fields =>
      have mode : propagation (Fields.hollow fields) (path.field "mountPropagation") =
          propagation fields (path.field "mountPropagation") := by
        rw [propagation, propagation, Fields.get_hollow]
        cases Fields.get? fields (.text "mountPropagation") with
        | none => rfl
        | some v => cases v <;> rfl
      simp only [mount, Value.hollow_map, string_hollow, mode, flag_hollow]
  | _ => rfl

theorem mounts_hollow (volumes : Volumes) : entry.hollow.mounts volumes = entry.mounts volumes := by
  have read : sequence entry.hollow.fields "volumeMounts" (entry.hollow.path.field "volumeMounts") = _ :=
    sequence_hollow entry.fields "volumeMounts" (entry.path.field "volumeMounts")
  rw [mounts, mounts, read]
  cases sequence entry.fields "volumeMounts" (entry.path.field "volumeMounts") with
  | error e => rfl
  | ok items =>
      refine (each_item_hollow (entry.path.field "volumeMounts") items (mount volumes)).trans ?_
      simp only [mount_hollow]
      rfl

end ContainerEntry

/-! Workloads -/

theorem Volume.of_fields_hollow (fields : Fields) : ofFields fields.hollow = ofFields fields := by
  have declared : ∀ type (declaration : Value),
      ofDeclaration type declaration.hollow = ofDeclaration type declaration := by
    intro type declaration
    cases type with
    | emptyDir =>
        have empty : (declaration.hollow == .map []) = (declaration == .map []) := by
          cases declaration with
          | map fields => cases fields <;> simp [Value.hollow_map, Fields.hollow]
          | _ => rfl
        rw [ofDeclaration, ofDeclaration, empty]
    | hostPath =>
        have path : hostPathOf declaration.hollow = hostPathOf declaration := by
          rw [hostPathOf, hostPathOf, Value.get_hollow]
          cases declaration.get? "path" with
          | none => rfl
          | some v => cases v <;> rfl
        rw [ofDeclaration, ofDeclaration, path]
    | _ => rfl
  simp only [ofFields, Fields.get_hollow, Option.map_map, Function.comp_def, declared]

namespace Workload

/-- The workload with all sets in its containers emptied. -/
def hollow (workload : Workload) : Workload :=
  { workload with
    containers := workload.containers.map ContainerEntry.hollow
    initContainers := workload.initContainers.map ContainerEntry.hollow }

theorem descend_hollow (problem : ManifestProblem) (path : FieldPath) (names : List String) (fields : Fields) :
    descend problem path names fields.hollow = (descend problem path names fields).map Fields.hollow := by
  induction names generalizing path fields with
  | nil => rfl
  | cons name names ih =>
      rw [descend, descend, Fields.get_hollow]
      cases fields.get? (.text name) with
      | none => rfl
      | some v =>
          cases v with
          | map inner =>
              rw [Option.map_some, Value.hollow_map]
              exact ih _ inner
          | _ => rfl

theorem volume_entry_hollow (path : FieldPath) (item : Value) :
    volumeEntry path item.hollow = volumeEntry path item := by
  cases item with
  | map fields =>
      simp only [volumeEntry, Value.hollow_map, string_hollow, Volume.of_fields_hollow]
  | _ => rfl

theorem read_volumes_hollow (spec : Fields) (path : FieldPath) :
    readVolumes spec.hollow path = readVolumes spec path := by
  rw [readVolumes, readVolumes, sequence_hollow]
  cases sequence spec "volumes" (path.field "volumes") with
  | error e => rfl
  | ok items => simp only [Except.map, bind, Except.bind, each_item_hollow, volume_entry_hollow]

theorem read_containers_hollow (spec : Fields) (key : String) (path : FieldPath) (space : Option Text)
    (cluster : Option ClusterSettings) :
    readContainers spec.hollow key path space cluster =
      (readContainers spec key path space cluster).map (·.map ContainerEntry.hollow) := by
  rw [readContainers, readContainers, sequence_hollow]
  cases sequence spec key (path.field key) with
  | error e => rfl
  | ok items =>
      have each : ∀ path (item : Value), ContainerEntry.ofValue item.hollow path space cluster =
          (ContainerEntry.ofValue item path space cluster).map ContainerEntry.hollow := by
        intro path item
        cases item with
        | map fields => rw [Value.hollow_map]; rfl
        | _ => rfl
      simp only [Except.map, bind, Except.bind, each_item_hollow, each]
      exact Outcome.map_m_map _ _ _

theorem of_fields_hollow (document : Fields) (cluster : Option ClusterSettings) :
    ofFields document.hollow cluster = (ofFields document cluster).map hollow := by
  have kind : WorkloadKind.ofManifest document.hollow = WorkloadKind.ofManifest document := by
    rw [WorkloadKind.ofManifest, WorkloadKind.ofManifest, Fields.get_hollow]
    cases Fields.get? document (.text "kind") with
    | none => rfl
    | some v => cases v <;> rfl
  have inner : ∀ metadata : Option Fields,
      (metadata.map Fields.hollow).getD [] = Fields.hollow (metadata.getD []) := by
    intro metadata
    cases metadata <;> rfl
  simp only [ofFields, kind, mapping_hollow, descend_hollow, Outcome.bind_of_map, Outcome.map_of_bind, inner,
    optional_string_hollow, read_volumes_hollow, read_containers_hollow]
  rfl

theorem of_document_hollow (document : Value) (cluster : Option ClusterSettings) :
    ofDocument document.hollow cluster = (ofDocument document cluster).map hollow := by
  cases document with
  | map fields =>
      rw [Value.hollow_map]
      exact of_fields_hollow fields cluster
  | _ => rfl

end Workload

end LaunchPolicy
