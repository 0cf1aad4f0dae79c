import LaunchPolicy.Proofs.Json.Closed
import LaunchPolicy.Proofs.Policy.Transport

/-!
Policies that are read from JSON values, however oddly their fields are typed, are written as JSON
values again.
-/

namespace LaunchPolicy

open Outcome (bind_ok_iff)

variable {kind : Scalar → Prop} {v : Value}

theorem container_of_field {name : Text} {container : Text × ContainerPolicy}
    (read : PolicyDocument.containerOfField (.text name, v) = .ok container) :
    name = container.1 ∧ ContainerPolicy.ofValue v = .ok container.2 := by
  obtain ⟨policy, readPolicy, read⟩ := bind_ok_iff.mp read
  obtain rfl := Except.ok.inj read
  exact ⟨rfl, readPolicy⟩

section

variable (closed : Scalar.IsClosed kind)

include closed

theorem User.of_value_consists {user : User} (consists : v.Consists kind)
    (read : User.ofValue v = .ok user) : user.toValue.Consists kind := by
  have identity {name : Text} {found : Value} {n : Int} (given : v.field name (.int 0) = .ok found)
      (read : found.integer = .ok n) : kind (.int n) :=
    (consists.field (.scalar closed.zero) given).integer closed read
  obtain ⟨uid, givenUid, read⟩ := bind_ok_iff.mp read
  obtain ⟨uid, readUid, read⟩ := bind_ok_iff.mp read
  obtain ⟨gid, givenGid, read⟩ := bind_ok_iff.mp read
  obtain ⟨gid, readGid, read⟩ := bind_ok_iff.mp read
  obtain rfl := Except.ok.inj read
  simp [User.toValue, Value.consists_object_iff, Value.consists_scalar_iff, closed.string,
    identity givenUid readUid, identity givenGid readGid]

theorem ProcessSpec.of_value_consists {process : ProcessSpec} (consists : v.Consists kind)
    (read : ProcessSpec.ofValue v = .ok process) : process.toValue.Consists kind := by
  obtain ⟨user, givenUser, read⟩ := bind_ok_iff.mp read
  obtain ⟨user, readUser, read⟩ := bind_ok_iff.mp read
  obtain ⟨cwd, givenCwd, read⟩ := bind_ok_iff.mp read
  obtain ⟨args, givenArgs, read⟩ := bind_ok_iff.mp read
  obtain ⟨args, readArgs, read⟩ := bind_ok_iff.mp read
  obtain ⟨env, givenEnv, read⟩ := bind_ok_iff.mp read
  obtain ⟨env, readEnv, read⟩ := bind_ok_iff.mp read
  obtain ⟨terminal, -, read⟩ := bind_ok_iff.mp read
  obtain rfl := Except.ok.inj read
  have userTree := User.of_value_consists closed (consists.field (Value.empty_consists kind) givenUser) readUser
  have cwdTree := consists.text_field closed givenCwd
  have argTrees := consists.listed_field closed givenArgs readArgs
  have envTrees := consists.listed_field closed givenEnv readEnv
  rw [ProcessSpec.toValue, Value.consists_object_iff]
  split
  · simp [userTree, cwdTree, argTrees, envTrees, Value.consists_scalar_iff, closed.truth, closed.string]
  · simp [userTree, cwdTree, argTrees, envTrees, closed.string]

theorem Mount.of_value_consists {mount : Mount} (consists : v.Consists kind)
    (read : Mount.ofValue v = .ok mount) : mount.toValue.Consists kind := by
  obtain ⟨written, given, read⟩ := bind_ok_iff.mp read
  split at read
  · contradiction
  · rename_i options texts
    split at read
    · contradiction
    · rename_i destination found
      obtain ⟨source, givenSource, read⟩ := bind_ok_iff.mp read
      obtain ⟨type, givenType, read⟩ := bind_ok_iff.mp read
      obtain rfl := Except.ok.inj read
      obtain rfl := (Value.texts_eq_some_iff _ _).mp texts
      have optionsTree := consists.field (.list (by simp)) given
      rw [Mount.toValue, Value.consists_object_iff]
      simp [consists.get_field found, consists.text_field closed givenSource,
        consists.text_field closed givenType, optionsTree, closed.string]

theorem LaunchSpec.of_value_consists {spec : LaunchSpec} (consists : v.Consists kind)
    (read : LaunchSpec.ofValue v = .ok spec) : spec.toValue.Consists kind := by
  obtain ⟨version, givenVersion, read⟩ := bind_ok_iff.mp read
  obtain ⟨process, givenProcess, read⟩ := bind_ok_iff.mp read
  obtain ⟨process, readProcess, read⟩ := bind_ok_iff.mp read
  obtain ⟨items, givenItems, read⟩ := bind_ok_iff.mp read
  obtain ⟨items, readItems, read⟩ := bind_ok_iff.mp read
  obtain ⟨mounts, readMounts, read⟩ := bind_ok_iff.mp read
  obtain rfl := Except.ok.inj read
  have versionTree := consists.text_field closed givenVersion
  have processTree := ProcessSpec.of_value_consists closed
    (consists.field (Value.empty_consists kind) givenProcess) readProcess
  have itemTrees := (consists.field (.list (by simp)) givenItems).items closed readItems
  have mountTrees : (Value.list (mounts.map Mount.toValue)).Consists kind := by
    refine .list fun tree member => ?_
    obtain ⟨mount, within, rfl⟩ := List.mem_map.mp member
    obtain ⟨item, listed, readMount⟩ := Outcome.related_result (Outcome.map_m_ok readMounts) within
    exact Mount.of_value_consists closed (itemTrees item listed) readMount
  rw [LaunchSpec.toValue, Value.consists_object_iff]
  simp [versionTree, processTree, mountTrees, closed.string]

theorem Custom.of_value_consists {custom : Custom} (consists : v.Consists kind)
    (read : Custom.ofValue v = .ok custom) : custom.toValue.Consists kind := by
  obtain ⟨written, given, read⟩ := bind_ok_iff.mp read
  obtain ⟨layers, readLayers, read⟩ := bind_ok_iff.mp read
  obtain rfl := Except.ok.inj read
  have layerTrees := consists.listed_field closed given readLayers
  rw [Custom.toValue, Value.consists_object_iff]
  split
  · simp
  · simp [layerTrees, closed.string]

theorem ContainerPolicy.of_value_consists {policy : ContainerPolicy} (consists : v.Consists kind)
    (read : ContainerPolicy.ofValue v = .ok policy) : policy.toValue.Consists kind := by
  rw [ContainerPolicy.ofValue.eq_def] at read
  split at read
  · rename_i fields
    split at read
    · contradiction
    · rename_i written found
      obtain ⟨spec, readSpec, read⟩ := bind_ok_iff.mp read
      obtain ⟨custom, readCustom, read⟩ := bind_ok_iff.mp read
      obtain rfl := Except.ok.inj read
      have specTree := LaunchSpec.of_value_consists closed (consists.get found) readSpec
      have customTree : custom.toValue.Consists kind := by
        refine Custom.of_value_consists closed ?_ readCustom
        split
        · cases given : (Value.map fields).get? "custom" with
          | none => exact .scalar closed.null
          | some value => exact consists.get_field given
        · exact Value.empty_consists kind
      rw [ContainerPolicy.toValue, Value.consists_object_iff]
      simp [specTree, customTree, closed.string]
  · contradiction

theorem PolicyDocument.of_value_consists {document : PolicyDocument} (consists : v.Consists kind)
    (read : PolicyDocument.ofValue v = .ok document) : document.toValue.Consists kind := by
  obtain ⟨version, givenVersion, read⟩ := bind_ok_iff.mp read
  obtain ⟨written, givenContainers, read⟩ := bind_ok_iff.mp read
  obtain ⟨fields, readFields, read⟩ := bind_ok_iff.mp read
  obtain ⟨containers, readContainers, read⟩ := bind_ok_iff.mp read
  obtain rfl := Except.ok.inj read
  have versionTree := consists.text_field closed givenVersion
  have writtenTree := consists.field (Value.empty_consists kind) givenContainers
  obtain rfl : written = .map fields := by
    cases written with
    | map _ => exact congrArg Value.map (Except.ok.inj readFields)
    | _ => contradiction
  obtain ⟨named, form, distinct, each⟩ := writtenTree.named
  obtain rfl := Value.map.inj form
  have containerOf := List.forall₂_map_left_iff.mp (Outcome.map_m_ok readContainers)
  have names : named.map (·.1) = containers.map (·.1) := by
    rw [← List.forall₂_eq_eq_eq, List.forall₂_map_left_iff, List.forall₂_map_right_iff]
    exact containerOf.imp fun _ _ read => (container_of_field read).1
  have policies : ∀ container ∈ containers, container.2.toValue.Consists kind := by
    intro container member
    obtain ⟨field, within, read⟩ := Outcome.related_result containerOf member
    exact ContainerPolicy.of_value_consists closed (each field within).2 (container_of_field read).2
  have keys : ∀ container ∈ containers, kind (.text container.1) := by
    intro container member
    obtain ⟨field, within, read⟩ := Outcome.related_result containerOf member
    exact (container_of_field read).1 ▸ (each field within).1
  have containersTree : (Value.object (containers.map fun entry => (entry.1, entry.2.toValue))).Consists kind := by
    refine (Value.consists_object_iff _).mpr ⟨?_, ?_⟩
    · rwa [List.map_map, Function.comp_def, ← names]
    · intro field member
      obtain ⟨container, within, rfl⟩ := List.mem_map.mp member
      exact ⟨keys container within, policies container within⟩
  rw [PolicyDocument.toValue, Value.consists_object_iff]
  simp [versionTree, containersTree, closed.string]

end

/-- A document that is read from a JSON value whose integers have numerals is written, as far as there is
room for its levels, and read back from its text. -/
theorem PolicyDocument.of_json_of_value {machine : Machine} {document : PolicyDocument}
    (legible : v.Consists Json.Legible) (read : PolicyDocument.ofValue v = .ok document)
    (written : document.toValue.depth ≤ machine.jsonWritten) (back : document.toValue.depth ≤ machine.jsonRead)
    {layout : Json.Layout} (blank : layout.IsBlank) :
    ∃ text, document.toJson machine layout = .ok text ∧ PolicyDocument.ofJson machine text = .ok document := by
  have tree := PolicyDocument.of_value_consists Scalar.legible_closed legible read
  refine ⟨_, Json.write_writable layout (tree.weaken fun _ legible => legible.1) written, ?_⟩
  rw [PolicyDocument.ofJson, Json.read_render blank tree back]
  exact document.of_value_to_value

namespace PolicyDocument

variable {machine : Machine} {document : PolicyDocument}

/-- The words of every process are among the scalars of a document. -/
theorem args_consist (consists : document.toValue.Consists kind) {entry : Text × ContainerPolicy}
    (member : entry ∈ document.containers) {word : Text} (within : .text word ∈ entry.2.spec.process.args) :
    kind (.text word) := by
  have containers : (Value.object (document.containers.map fun entry => (entry.1, entry.2.toValue))).Consists kind :=
    consists.get_field (show document.toValue.get? "containers" = some _ from rfl)
  have policy := (((Value.consists_object_iff _).mp containers).2 _ (List.mem_map_of_mem member)).2
  have spec := policy.get_field (show entry.2.toValue.get? "oci_spec" = some _ from rfl)
  have process := spec.get_field (show entry.2.spec.toValue.get? "process" = some _ from rfl)
  have words : entry.2.spec.process.toValue.get? "args" = some (.list entry.2.spec.process.args) := by
    rw [ProcessSpec.toValue]
    split <;> simp [Value.get_object_cons]
  have args := process.get_field words
  exact (Value.consists_scalar_iff _).mp ((Value.consists_list_iff _).mp args _ within)

/-- No document that is read has halves that stand like a pair. -/
theorem of_json_unjoined {text : String} (read : ofJson machine text = .ok document) : document.Unjoined := by
  obtain ⟨v, parsed, read⟩ := bind_ok_iff.mp read
  exact (of_value_consists Scalar.read_closed (Json.read_consists parsed) read).weaken Json.read_unjoined

/-- A document is decoded from what it is written as unless it has halves that stand like a pair. -/
theorem Typed.of_base64_iff (typed : document.Typed) {encoded : String}
    (written : document.toBase64 machine = .ok encoded) :
    ofBase64 machine encoded = .ok document ↔ document.Unjoined := by
  constructor
  · intro read
    obtain ⟨text, -, same⟩ := of_base64_to_base64 written
    exact of_json_unjoined (same ▸ read)
  · intro unjoined
    exact typed.of_base64 unjoined written

end PolicyDocument

end LaunchPolicy
