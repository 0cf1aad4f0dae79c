import LaunchPolicy.Proofs.Manifest.Annotation
import LaunchPolicy.Proofs.Manifest.Optional

/-!
Documents that can be annotated. Whether a policy can be set in a document, and with which error it
cannot, is seen on the tree that the document is read as, and so makes no difference between fields
that are null and fields that are missing, the metadata of the pod left aside.
-/

namespace LaunchPolicy

open Outcome (Agree)

/-- Both have a result, or both have one error. -/
abbrev Outcome.SameEnd {ε α β : Type} (left : Except ε α) (right : Except ε β) : Prop :=
  Agree (fun _ _ => True) left right

theorem Outcome.SameEnd.trans {ε α β γ : Type} {left : Except ε α} {middle : Except ε β}
    {right : Except ε γ} (first : SameEnd left middle) (second : SameEnd middle right) :
    SameEnd left right := Agree.trans first second fun _ _ _ _ _ => trivial

theorem Outcome.SameEnd.symm {ε α β : Type} {left : Except ε α} {right : Except ε β}
    (ends : SameEnd left right) : SameEnd right left := Agree.symm ends fun _ _ _ => trivial

namespace Yaml.Graph

variable {g : Graph} {id : Nat} {fields : Fields} {path : FieldPath} {policy : String}

/-- The fields of a value are those of its tree. -/
theorem get_views (id : Nat) (name : String) (depth : Nat) :
    ((g.views (depth + 1)).getD id .null).get? name =
      (g.field? id name).map fun inner => (g.views depth).getD inner .null := by
  rw [field?]
  cases here : g.content? id with
  | none => rw [view_at_absent here]; rfl
  | some content =>
      rw [view_at content here]
      cases content with
      | map entries => exact get_view_map _ entries name
      | _ => rfl

theorem is_map_iff_view (id depth : Nat) :
    g.isMap id = true ↔ ∃ fields, (g.views depth).getD id .null = .map fields := by
  rw [isMap]
  cases here : g.content? id with
  | none => simp [view_at_absent here]
  | some content =>
      rw [view_of_content here]
      cases content <;> simp [Content.view]

theorem annotate_metadata_end (depth : Nat) (view : (g.views (depth + 1)).getD id .null = .map fields)
    (known : ∀ inner, g.field? id "annotations" = some inner → inner < g.contents.size) :
    Outcome.SameEnd (annotateMetadata g id path policy) (Manifest.annotateMetadata fields path policy) := by
  have viewed := get_views (g := g) id "annotations" depth
  rw [view, Value.get?] at viewed
  rw [annotateMetadata, Manifest.annotateMetadata, viewed]
  cases found : g.field? id "annotations" with
  | none => exact .ok trivial
  | some inner =>
      obtain ⟨content, here⟩ := content_of_lt (known inner found)
      rw [Option.map_some, Option.getD_some, view_of_content here]
      simp only [here]
      cases content with
      | scalar s => cases s <;> first | exact .ok trivial | exact .error _
      | map entries => exact .ok trivial
      | _ => exact .error _

/-- New metadata have no annotations that could be in the way. -/
theorem annotate_new_metadata (isMap : g.isMap id = true) (path : FieldPath) (policy : String) :
    ∃ after, annotateMetadata (g.setNew id "metadata" (.map [])) g.contents.size path policy = .ok after := by
  have here := content_set_new isMap "metadata" (.map [])
  have fresh : (g.setNew id "metadata" (.map [])).field? g.contents.size "annotations" = none := by
    rw [field?, here]
    rfl
  rw [annotateMetadata, fresh]
  exact ⟨_, rfl⟩

theorem annotate_pod_end (depth : Nat) (view : (g.views (depth + 2)).getD id .null = .map fields)
    (known : ∀ metadata inner, g.field? id "metadata" = some metadata →
      g.field? metadata "annotations" = some inner → inner < g.contents.size) :
    Outcome.SameEnd (annotatePod g id path policy) (Manifest.annotatePod fields path policy) := by
  have viewed := get_views (g := g) id "metadata" (depth + 1)
  rw [view, Value.get?] at viewed
  rw [annotatePod, Manifest.annotatePod, viewed]
  cases found : g.field? id "metadata" with
  | none =>
      have isMap := (is_map_iff_view id _).mpr ⟨fields, view⟩
      obtain ⟨after, done⟩ := annotate_new_metadata isMap (path.field "metadata") policy
      change Outcome.SameEnd (annotateMetadata (g.setNew id "metadata" (.map [])) g.contents.size
        (path.field "metadata") policy) _
      rw [done]
      exact .ok trivial
  | some metadata =>
      rw [Option.map_some, Option.getD_some]
      by_cases isMap : g.isMap metadata = true
      · obtain ⟨inner, viewInner⟩ := (is_map_iff_view metadata (depth + 1)).mp isMap
        simp only [isMap, if_true, viewInner]
        exact (annotate_metadata_end depth viewInner fun _ => known metadata _ found).bind_right
          fun _ _ _ => ⟨_, rfl, trivial⟩
      · have noMap : ∀ inner, (g.views (depth + 1)).getD metadata .null ≠ .map inner := fun inner same =>
          isMap ((is_map_iff_view metadata (depth + 1)).mpr ⟨inner, same⟩)
        simp only [isMap, Bool.false_eq_true, if_false]
        exact .error _

theorem annotate_at_end {names : List String} (depth : Nat)
    (view : (g.views (depth + 2 + names.length)).getD id .null = .map fields)
    (known : ∀ inner, g.follow? id (names ++ ["metadata", "annotations"]) = some inner →
      inner < g.contents.size) :
    Outcome.SameEnd (annotateAt g policy id path names) (Manifest.annotateAt policy path names fields) := by
  induction names generalizing id path fields with
  | nil =>
      refine annotate_pod_end depth view fun metadata inner found foundInner => known inner ?_
      simp [follow?, found, foundInner]
  | cons name names ih =>
      have viewed := get_views (g := g) id name (depth + 2 + names.length)
      rw [List.length_cons, ← Nat.add_assoc] at view
      rw [view, Value.get?] at viewed
      rw [annotateAt, Manifest.annotateAt, viewed]
      cases found : g.field? id name with
      | none => exact .error _
      | some next =>
          rw [Option.map_some]
          by_cases isMap : g.isMap next = true
          · obtain ⟨inner, viewInner⟩ := (is_map_iff_view next (depth + 2 + names.length)).mp isMap
            simp only [isMap, if_true, viewInner]
            refine (ih viewInner fun leaf followed => known leaf ?_).bind_right fun _ _ _ => ⟨_, rfl, trivial⟩
            rw [List.cons_append, follow?, found]
            exact followed
          · have noMap : ∀ inner, (g.views (depth + 2 + names.length)).getD next .null ≠ .map inner :=
              fun inner same => isMap ((is_map_iff_view next _).mpr ⟨inner, same⟩)
            simp only [isMap, Bool.false_eq_true, if_false]
            split
            · rename_i inner same
              exact absurd (Option.some.inj same) (noMap inner)
            · exact .error _

/-- A document whose places have values is annotated just when its tree is. -/
theorem annotate_end {depth : Nat} (closed : g.Closed) (deep : 4 ≤ depth)
    (view : g.view depth = .map fields) (kind : WorkloadKind) (policy : String) :
    Outcome.SameEnd (g.annotate kind policy) (Manifest.annotate fields kind policy) := by
  have known : ∀ inner, g.follow? g.root (kind.templatePath ++ ["metadata", "annotations"]) = some inner →
      inner < g.contents.size := by
    intro inner followed
    obtain ⟨path, found⟩ := reaches_of_follow followed
    exact closed path inner found
  have short : kind.templatePath.length ≤ 2 := by cases kind <;> decide
  obtain ⟨more, rfl⟩ : ∃ more, depth = more + 2 + kind.templatePath.length :=
    ⟨depth - 2 - kind.templatePath.length, by omega⟩
  exact annotate_at_end more view known

end Yaml.Graph

/-! Fields that are null or missing -/

namespace Manifest

variable {fields others : Fields} {policy : String}

theorem get_d_null_present {key : String} (same : present? fields key = present? others key) :
    (fields.get? (.text key)).getD .null = (others.get? (.text key)).getD .null := by
  have each (fields : Fields) : (fields.get? (.text key)).getD .null = (present? fields key).getD .null := by
    rw [present?]
    split <;> simp_all
  rw [each, each, same]

theorem annotate_metadata_alike {name : String}
    (alike : Value.Alike [.field name] (.map fields) (.map others)) (path : FieldPath) :
    Outcome.SameEnd (annotateMetadata fields path policy) (annotateMetadata others path policy) := by
  rw [annotateMetadata, annotateMetadata, get_d_null_present (alike.present_last "annotations")]
  split
  · exact .ok trivial
  · exact .ok trivial
  · exact .error _

theorem annotate_pod_same (same : fields.get? (.text "metadata") = others.get? (.text "metadata"))
    (path : FieldPath) :
    Outcome.SameEnd (annotatePod fields path policy) (annotatePod others path policy) := by
  rw [annotatePod, annotatePod, same]
  split
  · exact Agree.bind_same fun _ => .ok trivial
  · exact .error _

/-- A field of the pod's metadata. -/
theorem annotate_pod_alike {name : String}
    (alike : Value.Alike [.field "metadata", .field name] (.map fields) (.map others)) (path : FieldPath) :
    Outcome.SameEnd (annotatePod fields path policy) (annotatePod others path policy) := by
  rcases alike.field_cases with same | ⟨v, w, left, right, inner⟩
  · exact annotate_pod_same same path
  · rcases inner.map_cases with rfl | ⟨known, other, rfl, rfl⟩
    · exact annotate_pod_same (left.trans right.symm) path
    · rw [annotatePod, annotatePod, left, right]
      exact (annotate_metadata_alike inner _).bind fun _ _ _ => .ok trivial

theorem annotate_at_alike {names : List String} {step : PathStep} {rest : List PathStep}
    (alike : Value.Alike (names.map .field ++ step :: rest) (.map fields) (.map others))
    (pods : ∀ {fields others : Fields} (path : FieldPath),
      Value.Alike (step :: rest) (.map fields) (.map others) →
      Outcome.SameEnd (annotatePod fields path policy) (annotatePod others path policy))
    (path : FieldPath) :
    Outcome.SameEnd (annotateAt policy path names fields) (annotateAt policy path names others) := by
  induction names generalizing path fields others with
  | nil => exact pods path alike
  | cons name names ih =>
      rw [annotateAt, annotateAt]
      rcases alike.step_cases with same | ⟨inner, other, left, right, alike⟩ | ⟨notMap, notMapToo⟩
      · rw [same]
        split
        · exact Agree.bind_same fun _ => .ok trivial
        · exact .error _
      · rw [left, right]
        exact (ih alike (path.field name)).bind fun _ _ _ => .ok trivial
      · split
        · rename_i found
          exact absurd found (notMap _)
        · exact .error _

/-- A field that need not be there makes no difference to the annotation when it is null. -/
theorem annotate_alike {kind : WorkloadKind} {field : OptionalField} (lenient : ¬ field.NotNull kind)
    (alike : Value.Alike (field.holder kind ++ [.field field.key]) (.map fields) (.map others)) :
    Outcome.SameEnd (annotate fields kind policy) (annotate others kind policy) := by
  have of_apart {name : String} {rest : List PathStep} (different : "metadata" ≠ name)
      (alike : Value.Alike (kind.templatePath.map .field ++ .field name :: rest) (.map fields)
        (.map others)) : Outcome.SameEnd (annotate fields kind policy) (annotate others kind policy) :=
    annotate_at_alike alike (fun path inner => annotate_pod_same (inner.get_apart different) path) {}
  have of_metadata {name : String}
      (alike : Value.Alike (kind.templatePath.map .field ++ [.field "metadata", .field name])
        (.map fields) (.map others)) :
      Outcome.SameEnd (annotate fields kind policy) (annotate others kind policy) :=
    annotate_at_alike alike (fun path inner => annotate_pod_alike inner path) {}
  have of_top {name : String} {rest : List PathStep} (noPod : kind ≠ .pod) (different : "spec" ≠ name)
      (alike : Value.Alike (.field name :: rest) (.map fields) (.map others)) :
      Outcome.SameEnd (annotate fields kind policy) (annotate others kind policy) := by
    have path : kind.templatePath = ["spec", "template"] := by
      cases kind <;> first | rfl | contradiction
    rw [annotate, annotate, path, annotateAt, annotateAt, alike.get_apart different]
    split
    · exact Agree.bind_same fun _ => .ok trivial
    · exact .error _
  have pod_path : kind.podSpecPath.map PathStep.field = kind.templatePath.map .field ++ [.field "spec"] := by
    rw [WorkloadKind.podSpecPath, List.map_append]
    rfl
  cases field with
  | metadata => exact of_top lenient (by decide) alike
  | name | space | annotations =>
      cases kind with
      | pod => exact of_metadata alike
      | _ => exact of_top (by decide) (by decide) alike
  | podMetadata => exact absurd trivial lenient
  | podAnnotations =>
      rw [OptionalField.holder, List.append_assoc] at alike
      exact of_metadata alike
  | volumes | containers | initContainers | container _ _ | initContainer _ _ =>
      simp only [OptionalField.holder, pod_path, List.append_assoc] at alike
      exact of_apart (by decide) alike

end Manifest

end LaunchPolicy
