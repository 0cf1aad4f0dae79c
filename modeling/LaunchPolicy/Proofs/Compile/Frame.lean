import LaunchPolicy.Proofs.Compile.Stream
import LaunchPolicy.Proofs.Yaml.Loaded
import LaunchPolicy.Proofs.Yaml.Tree

/-!
What compilation leaves as it was. One mapping of an annotated document, the holder, gets its
policy, or the mappings that lead there. Values that do not contain the holder read as before; and
where the holder has one place, the document reads as before everywhere but at its annotation. A
holder that is used in several places changes in all of them.
-/

namespace LaunchPolicy

namespace WorkloadCompiler

open Yaml (Step)

variable {compiler : WorkloadCompiler} {world : World} {session after : Session}

/-- What a document of a stream has in common with what becomes of it. -/
inductive Framed (machine : Machine) (document : Yaml.Graph) : Yaml.Graph × Option PolicyDocument → Prop
  | kept (other : WorkloadKind.ofDocument? (ManifestDocument.view document) = none) :
      Framed machine document (document, none)
  | annotated {kind : WorkloadKind} {policy : PolicyDocument} {encoded : String} {annotated : Yaml.Graph}
      {front more : List String} {holder value : Nat} {name : String}
      (supported : WorkloadKind.ofDocument? (ManifestDocument.view document) = some kind)
      (split : Yaml.Graph.annotationPath kind = front ++ name :: more)
      (written : policy.toBase64 machine = .ok encoded)
      (grafts : document.Grafts annotated encoded document.root front holder name value more)
      (apart : ∀ (path : List Step) (id : Nat), document.place? document.root path = some id →
        ¬ document.Reaches id holder →
        ∀ depth, (annotated.views depth).getD id .null = (document.views depth).getD id .null)
      (whole : document.SolePlace holder →
        ∀ depth, (Yaml.Graph.annotationPath kind).length ≤ depth →
          annotated.view depth = Value.setAt (Yaml.Graph.annotationPath kind)
            (.text encoded) (document.view depth)) :
      Framed machine document (annotated, some policy)

theorem annotate_grafts {kind : WorkloadKind} {policy : String} {document annotated : Yaml.Graph}
    (supported : WorkloadKind.ofDocument? (ManifestDocument.view document) = some kind)
    (done : ManifestDocument.annotate kind policy document = .ok annotated) :
    document.Annotates annotated policy document.root (Yaml.Graph.annotationPath kind) := by
  obtain ⟨fields, view, -⟩ := WorkloadKind.of_document_eq_some_iff.mp supported
  exact Yaml.Graph.annotate_at_ok (Yaml.Graph.is_map_of_view view) (Outcome.map_error_ok_iff.mp done)

theorem stream_document_framed {index : Nat} {document : Yaml.Graph}
    {outcome : Yaml.Graph × Option PolicyDocument} (closed : document.Closed)
    (ran : (compiler.streamDocument index document).run world session = (.ok outcome, after)) :
    Framed world.machine document outcome := by
  rcases stream_document_ok ran with ⟨rfl, other, -⟩ | ⟨workload, policy, annotated, _, rfl, made, done, -⟩
  · exact .kept other
  · obtain ⟨supported, sound⟩ := of_manifest_ok made
    obtain ⟨front, holder, name, value, more, split, grafts⟩ := annotate_grafts supported done
    have whole : document.SolePlace holder →
        ∀ depth, (Yaml.Graph.annotationPath workload.kind).length ≤ depth →
          annotated.view depth = Value.setAt (Yaml.Graph.annotationPath workload.kind)
            (.text policy.encoded) (document.view depth) := by
      intro sole depth deep
      rw [split] at deep ⊢
      rw [Yaml.Graph.view, grafts.sets.root]
      exact grafts.view_eq_set_at closed sole (Yaml.Graph.place_root document) deep
    exact .annotated supported split (sound.typed.to_base64 world.machine sound.has_numerals) grafts
      (fun _ _ found apart depth => grafts.sets.view_unreached closed found apart depth) whole

/-- Every document of a compiled text is kept as it is or changed in its holder alone. -/
theorem documents_framed
    {compiler : WorkloadCompiler}
    {text : String}
    {world : World}
    {session after : Session}
    {result : StreamResult Yaml.Graph}
    (compiled : (compiler.streamText text).run world session = (.ok result, after)) :
    ∃ documents outcomes,
      Yaml.documents world.machine text = .ok documents ∧
        List.Forall₂ (Framed world.machine) documents outcomes ∧
        result.documents = outcomes.map (·.1) ∧
        result.policies = outcomes.filterMap (·.2) := by
  rw [run_stream_text] at compiled
  obtain ⟨documents, read, ran⟩ := Compile.run_of_except_bind_ok_iff.mp compiled
  obtain ⟨outcomes, passes, documentsOf, policiesOf⟩ := stream_ok ran
  have loaded := read_stream_ok read
  have closed := Yaml.documents_closed loaded
  refine ⟨documents, outcomes, loaded, ?_, documentsOf, policiesOf⟩
  exact passes.relates fun document member _ _ _ ⟨_, ran⟩ =>
    stream_document_framed (closed document member) ran

/-- A pod without an alias. -/
def unsharedText : String := "kind: Pod\nmetadata:\n  annotations:\n    app: web\nspec: \x7b\x7d\n"

theorem unshared_document_framed :
    ∃ result after,
      (({} : WorkloadCompiler).streamText unsharedText).run World.silent {} = (.ok result, after) ∧
      ∃ document annotated policy encoded,
        Yaml.documents World.silent.machine unsharedText = .ok [document] ∧
        result.documents = [annotated] ∧ result.policies = [policy] ∧
        policy.toBase64 World.silent.machine = .ok encoded ∧ ∀ depth, 3 ≤ depth → annotated.view depth =
          Value.setAt ["metadata", "annotations", policyAnnotationKey] (.text encoded)
            (document.view depth) := by
  have succeeds :
      ((({} : WorkloadCompiler).streamText unsharedText).run World.silent {}).1.toBool = true := by
    decide +kernel
  have loaded : (Yaml.documents World.silent.machine unsharedText).map (fun documents => documents.map fun document =>
      (WorkloadKind.ofDocument? (ManifestDocument.view document),
        decide (document.root :: document.links.map (·.2)).Nodup)) = .ok [(some .pod, true)] := by
    decide +kernel
  rcases ran : (({} : WorkloadCompiler).streamText unsharedText).run World.silent {} with ⟨r, after⟩
  rw [ran] at succeeds
  cases r with
  | error failure => exact absurd succeeds (by simp [Except.toBool])
  | ok result =>
      obtain ⟨documents, outcomes, read, framed, documentsOf, policiesOf⟩ := documents_framed ran
      rw [read] at loaded
      obtain ⟨document, rfl, isPod⟩ := List.map_eq_singleton_iff.mp (Except.ok.inj loaded)
      obtain ⟨pod, sole⟩ := Prod.mk.inj isPod
      have tree := Yaml.Graph.is_tree_of_nodup (of_decide_eq_true sole)
      obtain ⟨outcome, rest, frame, none, rfl⟩ := List.forall₂_cons_left_iff.mp framed
      obtain rfl := List.forall₂_nil_left_iff.mp none
      cases frame with
      | kept other => exact absurd (pod.symm.trans other) (by simp)
      | @annotated kind policy encoded annotated _ _ holder _ _ supported _ written _ _ whole =>
          obtain rfl : kind = .pod := Option.some.inj (supported.symm.trans pod)
          exact ⟨result, after, rfl, document, annotated, policy, encoded, read, documentsOf, policiesOf,
            written, whole (tree holder)⟩

/-- A pod whose labels and annotations are one mapping. -/
def sharedText : String :=
  "kind: Pod\nmetadata:\n  labels: &app\n    app: web\n  annotations: *app\nspec: \x7b\x7d\n"

/-- What is read under the name of the annotation among the labels of a document. -/
def labelled? (document : Yaml.Graph) : Option Value :=
  (document.view manifestDepth).at? ["metadata", "labels", policyAnnotationKey]

/-- The labels of the shared pod have the policy after the annotation, and not before. -/
theorem shared_labels_annotated :
    (Yaml.documents World.silent.machine sharedText).toOption.map (·.map labelled?) = some [none] ∧
      ((({} : WorkloadCompiler).streamText sharedText).run World.silent {}).1.toOption.map
        (·.documents.map labelled?) = some [some (.text
          "ewogICJ2ZXJzaW9uIjogIjAuMS4wIiwKICAiY29udGFpbmVycyI6IHt9Cn0=")] := by
  constructor
  · decide +kernel
  · decide +kernel

end WorkloadCompiler

end LaunchPolicy
