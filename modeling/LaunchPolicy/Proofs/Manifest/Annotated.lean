import LaunchPolicy.Proofs.Manifest.Annotation
import LaunchPolicy.Proofs.Manifest.Workload

/-!
Workloads of annotated manifests. Nothing that a workload is read from lies at the annotation, in
the manifest of any kind, so the annotated manifest is read as the same workload.
-/

namespace LaunchPolicy

open Manifest Yaml.Graph

namespace Manifest

/-- A field of a mapping that may be left out is the one at the end of the path to it. -/
theorem get_of_mapping {fields : Fields} {key : String} {path : FieldPath} {inner : Option Fields}
    (read : mapping? fields key path = .ok inner) (name : String) :
    Fields.get? (inner.getD []) (.text name) = (Value.map fields).at? [key, name] := by
  rw [mapping?] at read
  split at read
  · rename_i absent
    obtain rfl := Except.ok.inj read
    rw [present?] at absent
    split at absent
    · rename_i null
      simp [Value.at?, Value.get?, null, Fields.get?]
    · simp [Value.at?, Value.get?, absent, Fields.get?]
  · rename_i found
    obtain rfl := Except.ok.inj read
    simp [Value.at?, Value.get?, present_of_get found]
  · contradiction

theorem mapping_put (fields inner : Fields) (key : String) (path : FieldPath) :
    mapping? (fields.put (.text key) (.map inner)) key path = .ok (some inner) := by
  apply mapping_some_iff.mpr
  rw [present?, Fields.get_put, if_pos rfl]

theorem optional_string_congr {fields other : Fields} {key : String}
    (same : fields.get? (.text key) = other.get? (.text key)) (path : FieldPath) :
    optionalString fields key path = optionalString other key path := by
  rw [optionalString, optionalString, present?, present?, same]

/-- What is read of a manifest besides its pod. -/
structure SameHead (manifest other : Value) : Prop where
  kind : other.get? "kind" = manifest.get? "kind"
  name : other.at? ["metadata", "name"] = manifest.at? ["metadata", "name"]
  space : other.at? ["metadata", "namespace"] = manifest.at? ["metadata", "namespace"]

end Manifest

namespace Workload

variable {cluster : Option ClusterSettings} {workload : Workload}

/-- Manifests with the same head and pod are read as the same workload. -/
theorem of_fields_congr {fields other : Fields} (read : ofFields fields cluster = .ok workload)
    (head : SameHead (.map fields) (.map other))
    (metadata : ∃ inner, mapping? other "metadata" (FieldPath.ofFields ["metadata"]) = .ok inner)
    (pod : (Value.map other).at? workload.kind.podSpecPath =
      (Value.map fields).at? workload.kind.podSpecPath) :
    ofFields other cluster = .ok workload := by
  obtain ⟨kind, classified, read⟩ := Outcome.bind_ok_iff.mp read
  obtain ⟨known, readMetadata, read⟩ := Outcome.bind_ok_iff.mp read
  obtain ⟨name, named, read⟩ := Outcome.bind_ok_iff.mp read
  obtain ⟨space, spaced, read⟩ := Outcome.bind_ok_iff.mp read
  obtain ⟨spec, descended, read⟩ := Outcome.bind_ok_iff.mp read
  have sameKind : workload.kind = kind := by
    obtain ⟨volumes, -, read⟩ := Outcome.bind_ok_iff.mp read
    obtain ⟨containers, -, read⟩ := Outcome.bind_ok_iff.mp read
    obtain ⟨initContainers, -, read⟩ := Outcome.bind_ok_iff.mp read
    rw [← Except.ok.inj read]
  obtain ⟨inner, readInner⟩ := metadata
  have kindToo : WorkloadKind.ofManifest other = .ok kind := by
    have same : Fields.get? other (.text "kind") = Fields.get? fields (.text "kind") := head.kind
    rw [← classified, WorkloadKind.ofManifest, WorkloadKind.ofManifest, same]
  have sameName : Fields.get? (inner.getD []) (.text "name") = Fields.get? (known.getD []) (.text "name") := by
    rw [get_of_mapping readInner, get_of_mapping readMetadata, head.name]
  have sameSpace : Fields.get? (inner.getD []) (.text "namespace") =
      Fields.get? (known.getD []) (.text "namespace") := by
    rw [get_of_mapping readInner, get_of_mapping readMetadata, head.space]
  rw [sameKind] at pod
  have specToo : descend .noPodSpec {} kind.podSpecPath other = .ok spec :=
    descend_ok_iff.mpr (pod.trans (descend_ok_iff.mp descended))
  exact Outcome.bind_ok_iff.mpr ⟨kind, kindToo, Outcome.bind_ok_iff.mpr ⟨inner, readInner,
    Outcome.bind_ok_iff.mpr ⟨name, (optional_string_congr sameName _).trans named,
      Outcome.bind_ok_iff.mpr ⟨space, (optional_string_congr sameSpace _).trans spaced,
        Outcome.bind_ok_iff.mpr ⟨spec, specToo, read⟩⟩⟩⟩⟩

theorem template_path_cases (kind : WorkloadKind) :
    kind.templatePath = [] ∨ kind.templatePath = ["spec", "template"] := by
  cases kind <;> simp [WorkloadKind.templatePath]

theorem annotated_head (kind : WorkloadKind) (policy manifest : Value) :
    SameHead manifest (Value.setAt (annotationPath kind) policy manifest) := by
  have outer : ∀ key, "annotations" ≠ key →
      (Value.setAt (annotationPath kind) policy manifest).at? ["metadata", key] =
        manifest.at? ["metadata", key] := by
    intro key different
    rcases template_path_cases kind with path | path
    · rw [annotationPath, path]
      exact Value.at_set_at_apart ["metadata"] different _ [] policy manifest
    · rw [annotationPath, path]
      exact Value.at_set_at_apart [] (by decide) _ [key] policy manifest
  refine ⟨?_, outer "name" (by decide), outer "namespace" (by decide)⟩
  rcases template_path_cases kind with path | path
  · rw [annotationPath, path, List.nil_append, annotationFields, Value.get_set_at]
    rfl
  · rw [annotationPath, path, List.cons_append, Value.get_set_at]
    rfl

/-- The annotation is apart from what a workload is read from. -/
theorem of_document_annotated {document : Value} (read : ofDocument document cluster = .ok workload)
    (policy : Value) :
    ofDocument (Value.setAt (annotationPath workload.kind) policy document) cluster =
      .ok workload := by
  cases document with
  | map fields =>
      obtain ⟨kind, -, rest⟩ := Outcome.bind_ok_iff.mp read
      obtain ⟨known, readMetadata, -⟩ := Outcome.bind_ok_iff.mp rest
      have head := annotated_head workload.kind policy (.map fields)
      have pod : (Value.setAt (annotationPath workload.kind) policy (.map fields)).at?
          workload.kind.podSpecPath = (Value.map fields).at? workload.kind.podSpecPath :=
        Value.at_set_at_apart workload.kind.templatePath (by decide) _ [] policy _
      rcases template_path_cases workload.kind with path | path
      · rw [annotationPath, path] at head pod ⊢
        apply of_fields_congr read head ?_ pod
        exact ⟨_, mapping_put fields _ "metadata" _⟩
      · rw [annotationPath, path] at head pod ⊢
        apply of_fields_congr read head ?_ pod
        refine ⟨known, ?_⟩
        rw [← readMetadata, mapping?, mapping?, present?, present?, Fields.get_put, if_neg (by decide)]
        rfl
  | _ => contradiction

end Workload

end LaunchPolicy
