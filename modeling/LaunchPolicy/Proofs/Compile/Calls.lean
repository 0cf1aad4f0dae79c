import LaunchPolicy.Proofs.Compile.Asking
import LaunchPolicy.Proofs.Compile.Escape
import LaunchPolicy.Proofs.Manifest.Annotated

/-!
The calls of a compilation, as the manifests of a stream fix them. Every container of every supported
document has its turn, and the sandbox after them; a turn asks for the image that its entry names and for
the config maps that its variables refer to, in the namespace of the document.
-/

namespace LaunchPolicy

open Compile Manifest

namespace Workload

/-- The namespace that a manifest gives, unless it is empty. -/
def spaceOf? (document : Value) : Option Text :=
  (textOf? (document.at? ["metadata", "namespace"])).filter (· ≠ "")

theorem space_of_document {document : Value} {cluster : Option ClusterSettings} {workload : Workload}
    (read : ofDocument document cluster = .ok workload) : workload.space = spaceOf? document := by
  cases document with
  | map fields =>
      obtain ⟨kind, -, read⟩ := Outcome.bind_ok_iff.mp read
      obtain ⟨metadata, readMetadata, read⟩ := Outcome.bind_ok_iff.mp read
      obtain ⟨name, -, read⟩ := Outcome.bind_ok_iff.mp read
      obtain ⟨space, spaced, read⟩ := Outcome.bind_ok_iff.mp read
      obtain ⟨spec, -, read⟩ := Outcome.bind_ok_iff.mp read
      obtain ⟨volumes, -, read⟩ := Outcome.bind_ok_iff.mp read
      obtain ⟨containers, -, read⟩ := Outcome.bind_ok_iff.mp read
      obtain ⟨initContainers, -, read⟩ := Outcome.bind_ok_iff.mp read
      obtain rfl := Except.ok.inj read
      have found := get_of_mapping readMetadata "namespace"
      rw [spaceOf?, ← found]
      rw [optionalString] at spaced
      split at spaced
      · rename_i absent
        obtain rfl := Except.ok.inj spaced
        rw [present?] at absent
        split at absent
        · rename_i null
          rw [null]
          rfl
        · rw [absent]
          rfl
      · rename_i name given
        obtain rfl := Except.ok.inj spaced
        rw [present_of_get given, textOf?, Option.filter_some]
        by_cases empty : name = "" <;> simp [empty]
      · cases spaced
  | _ => contradiction

end Workload

namespace WorkloadCompiler

/-- The turn of a container: the image that its entry names, and the config maps that its variables
come from, in the namespace of the document or else of the cluster. -/
def turnOf (compiler : WorkloadCompiler) (document item : Value) : Turn where
  image := (textOf? (item.get? "image")).getD ""
  maps :=
    match compiler.spaceFor? (Workload.spaceOf? document) with
    | some space => ((itemsOf item "env").filterMap mapOf?).map fun map => (space, map)
    | none => []

/-- The turns of a document: its containers, its init containers and the sandbox where there is one. A
document without a policy for its kind has none. -/
def turns (compiler : WorkloadCompiler) (document : Value) : List Turn :=
  match WorkloadKind.ofDocument? document with
  | none => []
  | some kind =>
      (podItems document kind "containers" ++ podItems document kind "initContainers").map
        (compiler.turnOf document) ++
      if compiler.withRuntime then [{ image := compiler.pauseImage }] else []

variable {compiler : WorkloadCompiler} {world : World} {session after : Session}

theorem string_to_option (fields : Fields) (key : String) (path : FieldPath) :
    (string fields key path).toOption = textOf? (fields.get? (.text key)) := by
  rw [string, present?]
  cases fields.get? (.text key) with
  | none => rfl
  | some v =>
      cases v with
      | scalar s => cases s <;> rfl
      | _ => rfl

theorem questions_of_variables (compiler : WorkloadCompiler) (entry : ContainerEntry) :
    entry.variableSteps.flatMap compiler.questions =
      (itemsOf (.map entry.fields) "env").flatMap fun item =>
        compiler.mapQuestions entry.space (mapOf? item) := by
  have items := List.zipIdx_map_fst 0 (itemsOf (.map entry.fields) "env")
  conv_rhs => rw [← items]
  rw [ContainerEntry.variableSteps, List.flatMap_map, List.flatMap_map]
  rfl

theorem questions_of_maps (compiler : WorkloadCompiler) (space : Option Text) (items : List Value) :
    (items.flatMap fun item => compiler.mapQuestions space (mapOf? item)) =
      match compiler.spaceFor? space with
      | some space => ((items.filterMap mapOf?).map fun map => (space, map)).map fun map =>
          Question.configMap map.1 map.2
      | none => [] := by
  induction items with
  | nil => cases compiler.spaceFor? space <;> rfl
  | cons item items ih =>
      rw [List.flatMap_cons, ih]
      unfold mapQuestions
      cases compiler.spaceFor? space <;> cases found : mapOf? item <;> simp [found]

theorem questions_read {α : Type} (compiler : WorkloadCompiler) (reading : Read α) :
    compiler.questions (.read reading) = [] := rfl

theorem questions_inspection (compiler : WorkloadCompiler) (reference : Text) :
    compiler.questions (.inspection reference) = [.image reference] := rfl

theorem questions_completion (compiler : WorkloadCompiler) : compiler.questions .completion = [] := rfl

/-- The steps of a container ask the questions of its turn. -/
theorem questions_of_entry {document : Value} {entry : ContainerEntry} (volumes : Volumes)
    (space : entry.space = Workload.spaceOf? document) :
    (entry.steps volumes).flatMap compiler.questions =
      (compiler.turnOf document (.map entry.fields)).questions := by
  have image : entry.image.toOption = textOf? ((Value.map entry.fields).get? "image") :=
    string_to_option entry.fields "image" _
  have asked := questions_of_variables compiler entry
  rw [questions_of_maps, space] at asked
  rw [ContainerEntry.steps, ContainerEntry.policySteps, Turn.questions, turnOf, ← image]
  simp only [List.flatMap_cons, List.flatMap_append, List.cons_append, List.flatMap_nil, asked,
    questions_read, questions_inspection, questions_completion, List.nil_append, List.append_nil]
  cases compiler.spaceFor? (Workload.spaceOf? document) <;> rfl

theorem questions_of_sandbox (compiler : WorkloadCompiler) :
    compiler.sandboxSteps.flatMap compiler.questions =
      (if compiler.withRuntime then [({ image := compiler.pauseImage } : Turn)] else []).flatMap
        Turn.questions := by
  rw [sandboxSteps]
  cases compiler.withRuntime <;> rfl

theorem entries_of_document {document : Value} {workload : Workload}
    (read : Workload.ofDocument document compiler.cluster = .ok workload) :
    List.Forall₂ (fun item entry => item = .map entry.fields ∧ entry.space = Workload.spaceOf? document)
      (podItems document workload.kind "containers" ++ podItems document workload.kind "initContainers")
      workload.entries := by
  obtain ⟨fields, spec, rfl, -, here, -, containers, initContainers⟩ := Workload.of_document_ok read
  rw [podItems, podItems, here, ← Workload.space_of_document read]
  exact List.rel_append
    ((Workload.read_containers_each containers).imp fun _ _ read => ⟨read.1, read.2.1⟩)
    ((Workload.read_containers_each initContainers).imp fun _ _ read => ⟨read.1, read.2.1⟩)

theorem questions_of_workload {document : Value} {workload : Workload}
    (read : Workload.ofDocument document compiler.cluster = .ok workload) :
    (compiler.workloadSteps workload).flatMap compiler.questions =
      (compiler.turns document).flatMap Turn.questions := by
  rw [turns, Workload.of_document_kind read]
  simp only [workloadSteps, List.flatMap_append, questions_of_sandbox, List.flatMap_assoc]
  congr 1
  rw [List.flatMap_map]
  have entries := entries_of_document read
  generalize podItems document workload.kind "containers" ++
    podItems document workload.kind "initContainers" = items at entries ⊢
  generalize workload.entries = listed at entries ⊢
  induction entries with
  | nil => rfl
  | cons first _ ih =>
      obtain ⟨rfl, space⟩ := first
      rw [List.flatMap_cons, List.flatMap_cons, ih, questions_of_entry _ space]

/-- The steps of a document that can all be taken ask the questions of its turns. -/
theorem questions_of_document {document : Yaml.Graph}
    (readable : ∀ e, Step.reading (.error e) ∉ compiler.documentSteps document) :
    (compiler.documentSteps document).flatMap compiler.questions =
      (compiler.turns (ManifestDocument.view document)).flatMap Turn.questions := by
  rw [documentSteps] at readable ⊢
  cases read : Workload.ofDocument (ManifestDocument.view document) compiler.cluster with
  | ok workload =>
      simp only
      rw [List.flatMap_append, questions_of_workload read]
      exact List.append_nil _
  | error e =>
      rw [read] at readable
      cases unsupported : e.isUnsupportedKind with
      | false =>
          simp only [unsupported] at readable
          exact absurd List.mem_cons_self (readable e)
      | true =>
          have other : WorkloadKind.ofDocument? (ManifestDocument.view document) = none := by
            have refused : (compiler.ofManifest (ManifestDocument.view document)).run .silent {} =
                (.error (.policy e), {}) := by
              rw [ofManifest, Workload.extract, read]
              rfl
            exact (of_manifest_unsupported refused unsupported).1
          simp only [turns, other, unsupported]
          rfl

/-- A run stops in a step that fails. The steps before it were taken, with all of their calls; of its own
calls it makes a first part, and no later step makes any. -/
inductive Stops (compiler : WorkloadCompiler) (world : World) (session : Session) (steps : List Step)
    (failure : Failure) (after : Session) : Prop
  | inStep {front rest : List Step} {step : Step} {middle stopped : Session} {own : List Call}
      (split : steps = front ++ step :: rest)
      (taken : compiler.Taken world session front middle)
      (fails : compiler.Ends world step middle (.error failure) stopped)
      (quiet : stopped.Quiet after)
      (asked : middle.calls = session.calls ++
        compiler.asked session.reach (front.flatMap compiler.questions))
      (asking : own <+: compiler.asked middle.reach (compiler.questions step))
      (calls : after.calls = middle.calls ++ own)

theorem Halts.stops {steps : List Step} {failure : Failure}
    (halts : compiler.Halts world session steps failure after) :
    compiler.Stops world session steps failure after := by
  cases halts with
  | inStep split taken fails quiet =>
      obtain ⟨own, asking, calls⟩ := ends_asking fails
      have kept : after.calls = _ := (congrArg Session.calls quiet).trans calls
      exact .inStep split taken fails quiet (taken_asked taken).calls asking kept

/-- What a run that succeeds has asked are the questions of the turns of its documents. -/
theorem questions_of_stream {documents : List Yaml.Graph}
    (taken : compiler.Taken world session (documents.flatMap compiler.documentSteps) after) :
    (documents.flatMap compiler.documentSteps).flatMap compiler.questions =
      (documents.flatMap fun document =>
        compiler.turns (ManifestDocument.view document)).flatMap Turn.questions := by
  have readable : ∀ document ∈ documents, ∀ e,
      Step.reading (.error e) ∉ compiler.documentSteps document :=
    fun document member e unread => taken.read e (List.mem_flatMap.mpr ⟨document, member, unread⟩)
  rw [List.flatMap_assoc, List.flatMap_assoc]
  exact List.flatMap_congr fun document member => questions_of_document (readable document member)

/-- The calls of a run are those that the turns of its documents come to, one after another; a run that
fails makes no call after the step that it fails in, and one whose text is no YAML makes none. -/
theorem calls_follow_manifests
    {compiler : WorkloadCompiler}
    {world : World}
    {session after : Session}
    {text : String}
    {r : Except Failure (StreamResult Yaml.Graph)}
    (ran : (compiler.streamText text).run world session = (r, after)) :
    (∀ fault, Yaml.documents world.machine text = .error fault →
      (∃ failure, r = .error failure) ∧ after.calls = session.calls) ∧
    ∀ documents, Yaml.documents world.machine text = .ok documents →
      (∀ result, r = .ok result → ∃ calls, after.calls = session.calls ++ calls ∧
        calls = compiler.asked session.reach ((documents.flatMap fun document =>
          compiler.turns (ManifestDocument.view document)).flatMap Turn.questions) ∧
        compiler.Orderly session.reach (documents.flatMap fun document =>
          compiler.turns (ManifestDocument.view document)) calls) ∧
      ∀ failure, r = .error failure →
        compiler.Stops world session (documents.flatMap compiler.documentSteps) failure after := by
  constructor
  · intro fault unread
    have refused : ∃ failure, readStream world.machine text = .error failure := by
      cases fault <;> exact ⟨_, by rw [readStream, unread]⟩
    obtain ⟨failure, refused⟩ := refused
    rw [run_stream_text, refused] at ran
    obtain ⟨rfl, rfl⟩ := Prod.mk.inj ran
    exact ⟨⟨failure, rfl⟩, rfl⟩
  · intro documents loaded
    have streamed : (compiler.stream documents).run world session = (r, after) :=
      (run_read_text loaded session).symm.trans ran
    refine ⟨?_, ?_⟩
    · rintro result rfl
      have taken := (walks_stream documents).taken streamed
      have questions := questions_of_stream taken
      refine ⟨_, (taken_asked taken).calls, by rw [questions], ?_⟩
      rw [questions]
      exact asked_orderly compiler session.reach _
    · rintro failure rfl
      exact ((walks_stream documents).halts streamed).stops

/-- A pod with a variable from a config map, after a document without a policy. -/
def referringText : String :=
  "kind: Service\n---\nkind: Pod\nspec:\n containers:\n - name: a\n   image: x\n   env:\n" ++
  "   - name: V\n     valueFrom:\n      configMapKeyRef:\n       name: m\n       key: k\n"

/-- Surroundings with a config map. -/
def mappedWorld : World := { World.shell with configMap := fun _ _ => .found [(.text "k", .text "v")] }

/-- The same calls are made where the config map is there and where reading it is refused. -/
theorem referring_pod_calls :
    ∃ documents result after failure stopped,
      Yaml.documents World.shell.machine referringText = .ok documents ∧
      ((ofSettings {}).streamText referringText).run mappedWorld {} = (.ok result, after) ∧
      after.calls = [inspection (ofSettings {}) "x", loading (ofSettings {}),
        .readConfigMap "m" (.text "default")] ∧
      Orderly (ofSettings {}) {} (documents.flatMap fun document =>
        turns (ofSettings {}) (ManifestDocument.view document)) after.calls ∧
      ((ofSettings {}).streamText referringText).run World.shell {} = (.error failure, stopped) ∧
      stopped.calls = after.calls ∧
      Stops (ofSettings {}) World.shell {} (documents.flatMap (documentSteps (ofSettings {}))) failure
        stopped := by
  have evaluated : (Yaml.documents World.shell.machine referringText).map (fun documents =>
      let found := ((ofSettings {}).stream documents).run mappedWorld {}
      let refused := ((ofSettings {}).stream documents).run World.shell {}
      (done found.1, (failure? refused).isSome, found.2.calls, decide (refused.2.calls = found.2.calls))) =
      .ok (.ok (), true, [inspection (ofSettings {}) "x", loading (ofSettings {}),
        .readConfigMap "m" (.text "default")], true) := by
    decide +kernel
  obtain ⟨documents, loaded, outcome⟩ := Outcome.map_ok_iff.mp evaluated
  simp only [Prod.mk.injEq, decide_eq_true_eq] at outcome
  obtain ⟨compiles, fails, calls, sameCalls⟩ := outcome
  obtain ⟨result, made, -⟩ := Outcome.map_ok_iff.mp compiles
  obtain ⟨failure, failed⟩ := Option.isSome_iff_exists.mp fails
  obtain ⟨after, ran⟩ := run_of_result made
  obtain ⟨stopped, ranRefused⟩ : ∃ stopped, ((ofSettings {}).stream documents).run World.shell {} =
      (.error failure, stopped) := ⟨_, run_of_failure failed⟩
  rw [ran, ranRefused] at sameCalls
  rw [ran] at calls
  have loadedToo : Yaml.documents mappedWorld.machine referringText = .ok documents := loaded
  rw [← run_read_text loadedToo] at ran
  rw [← run_read_text loaded] at ranRefused
  obtain ⟨own, same, -, orderly⟩ := ((calls_follow_manifests ran).2 documents loadedToo).1 result rfl
  obtain rfl : after.calls = own := same
  have stops := ((calls_follow_manifests ranRefused).2 documents loaded).2 failure rfl
  exact ⟨documents, result, after, failure, stopped, loaded, ran, calls, orderly, ranRefused, sameCalls,
    stops⟩

end WorkloadCompiler

end LaunchPolicy
