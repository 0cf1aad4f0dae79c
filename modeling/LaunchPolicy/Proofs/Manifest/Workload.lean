import LaunchPolicy.Manifest.Workload
import LaunchPolicy.Proofs.Keyed
import LaunchPolicy.Proofs.Manifest.Entry
import LaunchPolicy.Proofs.Value.Path

/-!
What a workload holds of its manifest: an entry for each container, in the order of the manifest,
and of each volume the last declaration.
-/

namespace LaunchPolicy

namespace Manifest

/-- The items of a field that is a list; anything else has none. -/
def itemsOf (v : Value) (key : String) : List Value :=
  match v.get? key with
  | some (.list items) => items
  | _ => []

/-- The items of a list of the pod of a manifest. -/
def podItems (manifest : Value) (kind : WorkloadKind) (key : String) : List Value :=
  itemsOf ((manifest.at? kind.podSpecPath).getD .null) key

/-- The last of the items that have a text in a field. -/
def lastWith? (items : List Value) (key : String) (text : Text) : Option Value :=
  (items.filter fun item => item.get? key = some (.text text)).getLast?

theorem sequence_items {fields : Fields} {key : String} {path : FieldPath} {items : List Value}
    (read : sequence fields key path = .ok items) : itemsOf (.map fields) key = items := by
  rw [sequence] at read
  split at read
  · rename_i absent
    obtain rfl := Except.ok.inj read
    rw [present?] at absent
    rw [itemsOf, Value.get?]
    split at absent
    · rename_i null
      rw [null]
    · rw [absent]
  · rename_i listed found
    obtain rfl := Except.ok.inj read
    rw [itemsOf, Value.get?, present_of_get found]
  · contradiction

end Manifest

open Manifest

namespace Volumes

theorem put_eq (volumes : Volumes) (name : Text) (volume : Volume) :
    volumes.put name volume = Keyed.put Prod.fst volumes (name, volume) := by
  induction volumes with
  | nil => rfl
  | cons known rest ih =>
      rw [put, Keyed.put, ih]
      split
      · rename_i same
        rw [same]
      · rfl

end Volumes

namespace Volume

/-- A volume that the kubelet fills: no empty directory, but one of the sources that it manages. -/
def Managed (declaration : Value) : Prop :=
  declaration.get? "emptyDir" = none ∧
    ∃ source ∈ ["secret", "configMap", "downwardAPI", "projected"],
      (declaration.get? source).isSome = true

instance (declaration : Value) : Decidable (Managed declaration) :=
  inferInstanceAs (Decidable (_ ∧ ∃ source ∈ _, _))

/-- What a volume makes read-only is what the kubelet manages, and that is not local. -/
theorem of_fields_managed (fields : Fields) :
    ((ofFields fields).readOnly = true ↔ Managed (.map fields)) ∧
      (Managed (.map fields) → (ofFields fields).isLocal = false) := by
  simp only [Managed, Value.get?, ofFields, VolumeType.declarable, List.findSome?_cons,
    List.findSome?_nil, VolumeType.name, List.mem_cons, List.not_mem_nil, or_false,
    exists_eq_or_imp, exists_eq_left, readOnly]
  cases fields.get? (.text "emptyDir") with
  | some declaration => simp [ofDeclaration, VolumeType.isReadOnly]
  | none =>
      cases fields.get? (.text "secret") with
      | some declaration => simp [ofDeclaration, VolumeType.isReadOnly]
      | none =>
          cases fields.get? (.text "configMap") with
          | some declaration => simp [ofDeclaration, VolumeType.isReadOnly]
          | none =>
              cases fields.get? (.text "downwardAPI") with
              | some declaration => simp [ofDeclaration, VolumeType.isReadOnly]
              | none =>
                  cases fields.get? (.text "projected") with
                  | some declaration => simp [ofDeclaration, VolumeType.isReadOnly]
                  | none =>
                      cases fields.get? (.text "hostPath") <;>
                        simp [ofDeclaration, VolumeType.isReadOnly]

end Volume

namespace Workload

variable {document : Value} {cluster : Option ClusterSettings} {workload : Workload}

theorem descend_ok_iff {problem : ManifestProblem} {path : FieldPath} {names : List String}
    {fields inner : Fields} :
    descend problem path names fields = .ok inner ↔
      (Value.map fields).at? names = some (.map inner) := by
  induction names generalizing path fields with
  | nil => simp [descend, Value.at?]
  | cons name names ih =>
      rw [descend, Value.at?, Value.get?]
      split
      · rename_i next found
        rw [found, ih]
        rfl
      · rename_i other
        cases found : fields.get? (.text name) with
        | none => simp
        | some v =>
            cases v with
            | map next => exact absurd found (other next)
            | _ => cases names <;> simp [Value.at?, Value.get?]

/-- A workload is read from the mapping at the place of the pod's specification. -/
theorem of_document_ok (read : ofDocument document cluster = .ok workload) :
    ∃ fields spec, document = .map fields ∧ WorkloadKind.ofManifest fields = .ok workload.kind ∧
      document.at? workload.kind.podSpecPath = some (.map spec) ∧
      readVolumes spec (.ofFields workload.kind.podSpecPath) = .ok workload.volumes ∧
      readContainers spec "containers" (.ofFields workload.kind.podSpecPath) workload.space
        cluster = .ok workload.containers ∧
      readContainers spec "initContainers" (.ofFields workload.kind.podSpecPath) workload.space
        cluster = .ok workload.initContainers := by
  cases document with
  | map fields =>
      obtain ⟨kind, classified, read⟩ := Outcome.bind_ok_iff.mp read
      obtain ⟨metadata, -, read⟩ := Outcome.bind_ok_iff.mp read
      obtain ⟨name, -, read⟩ := Outcome.bind_ok_iff.mp read
      obtain ⟨space, -, read⟩ := Outcome.bind_ok_iff.mp read
      obtain ⟨spec, descended, read⟩ := Outcome.bind_ok_iff.mp read
      obtain ⟨volumes, readVolumes, read⟩ := Outcome.bind_ok_iff.mp read
      obtain ⟨containers, readContainers, read⟩ := Outcome.bind_ok_iff.mp read
      obtain ⟨initContainers, readInitContainers, read⟩ := Outcome.bind_ok_iff.mp read
      obtain rfl := Except.ok.inj read
      exact ⟨fields, spec, rfl, classified, descend_ok_iff.mp descended, readVolumes,
        readContainers, readInitContainers⟩
  | _ => contradiction

theorem entry_of_value {item : Value} {path : FieldPath} {space : Option Text}
    {entry : ContainerEntry} (read : ContainerEntry.ofValue item path space cluster = .ok entry) :
    item = .map entry.fields ∧ entry.space = space ∧ entry.cluster = cluster := by
  cases item with
  | map fields =>
      obtain rfl := Except.ok.inj read
      exact ⟨rfl, rfl, rfl⟩
  | _ => exact absurd read (by simp [ContainerEntry.ofValue, misshapen])

theorem read_containers_each {spec : Fields} {key : String} {path : FieldPath}
    {space : Option Text} {entries : List ContainerEntry}
    (read : readContainers spec key path space cluster = .ok entries) :
    List.Forall₂ (fun item entry => item = .map entry.fields ∧ entry.space = space ∧
      entry.cluster = cluster) (itemsOf (.map spec) key) entries := by
  obtain ⟨items, listed, read⟩ := Outcome.bind_ok_iff.mp read
  rw [sequence_items listed]
  exact (each_item_ok read).imp fun _ _ ⟨_, this⟩ => entry_of_value this

theorem read_containers_ok {spec : Fields} {key : String} {path : FieldPath}
    {space : Option Text} {entries : List ContainerEntry}
    (read : readContainers spec key path space cluster = .ok entries) :
    List.Forall₂ (fun item entry => item = .map entry.fields ∧ entry.cluster = cluster)
      (itemsOf (.map spec) key) entries :=
  (read_containers_each read).imp fun _ _ ⟨same, _, resolved⟩ => ⟨same, resolved⟩

/-- The entries of a workload are those of its manifest, init containers last. -/
theorem of_document_entries (read : ofDocument document cluster = .ok workload) :
    List.Forall₂ (fun item entry => item = .map entry.fields ∧ entry.cluster = cluster)
      (podItems document workload.kind "containers" ++ podItems document workload.kind "initContainers")
      (workload.containers ++ workload.initContainers) := by
  obtain ⟨fields, spec, rfl, -, here, -, containers, initContainers⟩ := of_document_ok read
  rw [podItems, podItems, here]
  exact List.rel_append (read_containers_ok containers) (read_containers_ok initContainers)

/-- The containers of a workload are resolved in the cluster that it was read for. -/
theorem cluster_of_entry (read : ofDocument document cluster = .ok workload)
    {entry : ContainerEntry} (member : entry ∈ workload.containers ++ workload.initContainers) :
    entry.cluster = cluster := by
  obtain ⟨item, -, -, resolved⟩ := Outcome.related_result (of_document_entries read) member
  exact resolved

/-- An item declares a volume under a name. -/
def Declares (item : Value) (entry : Text × Volume) : Prop :=
  ∃ fields, item = .map fields ∧ item.get? "name" = some (.text entry.1) ∧
    entry.2 = Volume.ofFields fields

theorem read_volumes_ok {spec : Fields} {path : FieldPath} {volumes : Volumes}
    (read : readVolumes spec path = .ok volumes) :
    ∃ entries, List.Forall₂ Declares (itemsOf (.map spec) "volumes") entries ∧
      volumes = entries.foldl (Keyed.put Prod.fst) [] := by
  obtain ⟨items, listed, read⟩ := Outcome.bind_ok_iff.mp read
  obtain ⟨entries, each, read⟩ := Outcome.bind_ok_iff.mp read
  have puts : (fun (volumes : Volumes) (entry : Text × Volume) => volumes.put entry.1 entry.2) =
      Keyed.put Prod.fst := by
    funext volumes entry
    exact Volumes.put_eq volumes entry.1 entry.2
  rw [sequence_items listed, ← puts]
  refine ⟨entries, ?_, (Except.ok.inj read).symm⟩
  refine (each_item_ok each).imp fun item entry ⟨itemPath, this⟩ => ?_
  cases item with
  | map fields =>
      obtain ⟨name, named, this⟩ := Outcome.bind_ok_iff.mp this
      obtain rfl := Except.ok.inj this
      exact ⟨fields, rfl, present_of_get (string_ok_iff.mp named), rfl⟩
  | _ => contradiction

/-- The volume of a name is the one that its last declaration makes. -/
theorem read_volumes_get {spec : Fields} {path : FieldPath} {volumes : Volumes} {name : Text}
    {volume : Volume} (read : readVolumes spec path = .ok volumes)
    (found : volumes.get? name = some volume) :
    ∃ fields, lastWith? (itemsOf (.map spec) "volumes") "name" name = some (.map fields) ∧
      volume = Volume.ofFields fields := by
  obtain ⟨entries, declared, rfl⟩ := read_volumes_ok read
  obtain ⟨entry, last, rfl⟩ := Option.map_eq_some_iff.mp found
  rw [Keyed.find_fold, List.find?_nil, Option.or_none] at last
  have named : List.Forall₂ (fun entry item => Declares item entry)
      (entries.filter fun entry => entry.1 = name)
      ((itemsOf (.map spec) "volumes").filter fun item => item.get? "name" = some (.text name)) := by
    refine Outcome.related_filter declared.flip fun entry item ⟨_, _, named, _⟩ => ?_
    simp [named]
  obtain ⟨item, lastItem, fields, rfl, -, made⟩ := Outcome.related_last named last
  exact ⟨fields, lastItem, made⟩

theorem of_document_volumes (read : ofDocument document cluster = .ok workload) {name : Text}
    {volume : Volume} (found : workload.volumes.get? name = some volume) :
    ∃ fields, lastWith? (podItems document workload.kind "volumes") "name" name =
        some (.map fields) ∧ volume = Volume.ofFields fields := by
  obtain ⟨fields, spec, rfl, -, here, volumes, -, -⟩ := of_document_ok read
  rw [podItems, here]
  exact read_volumes_get volumes found

end Workload

end LaunchPolicy
