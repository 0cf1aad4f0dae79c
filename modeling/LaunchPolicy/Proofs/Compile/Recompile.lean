import LaunchPolicy.Proofs.Compile.Hollow
import LaunchPolicy.Proofs.Compile.Steady
import LaunchPolicy.Proofs.Compile.Stream
import LaunchPolicy.Proofs.Manifest.Annotated
import LaunchPolicy.Proofs.Yaml.Loaded
import LaunchPolicy.Proofs.Yaml.Written

/-!
Compiling a stream again. A document that carries its policy is read as the same workload as before,
gets the same policy and is left with the same tree, so a stream of documents without repetitions
stays what it has become.
-/

namespace LaunchPolicy

open Compile Yaml

/-- Results with the same policies, the same documents and the same texts. -/
structure StreamResult.Same (machine : Machine) (result other : StreamResult Graph) : Prop where
  policies : result.policies = other.policies
  documents : result.documents.map Graph.tree = other.documents.map Graph.tree
  text : result.text machine = other.text machine
  base64 : result.base64 machine = other.base64 machine
  yaml : result.yaml machine = other.yaml machine

theorem StreamResult.same_of_trees (machine : Machine) {result other : StreamResult Graph}
    (policies : result.policies = other.policies)
    (documents : result.documents.map Graph.tree = other.documents.map Graph.tree)
    (unshared : ∀ document ∈ result.documents, document.Unshared)
    (otherUnshared : ∀ document ∈ other.documents, document.Unshared) : result.Same machine other where
  policies := policies
  documents := documents
  text := by rw [text, text, policies]
  base64 := by rw [base64, base64, policies]
  yaml := write_congr machine.yamlWritten unshared otherUnshared documents

/-- The documents as trees whose sets are emptied: what does not depend on the order in which sets are
gone through. -/
def hollowTrees (documents : List Graph) : List Value := documents.map fun document => document.tree.hollow

theorem hollow_trees_congr {documents others : List Graph}
    (same : documents.map Graph.tree = others.map Graph.tree) : hollowTrees documents = hollowTrees others := by
  have emptied := congrArg (List.map Value.hollow) same
  rwa [List.map_map, List.map_map] at emptied

/-- What is written of a result is read back as the documents that it was written for, but for the order
of sets. -/
def StreamResult.ReadsBack (machine : Machine) (result : StreamResult Graph) : Prop :=
  ∃ text again, result.yaml machine = .ok text ∧ Yaml.documents machine text = .ok again ∧
    (∀ document ∈ again, document.IsTree) ∧ hollowTrees again = hollowTrees result.documents

namespace WorkloadCompiler

variable {compiler : WorkloadCompiler} {world : World} {session after later : Session}

theorem annotation_path_length (kind : WorkloadKind) :
    (Graph.annotationPath kind).length ≤ manifestDepth := by
  cases kind <;> decide

/-- What was made of a document is made again of every document with its tree, in which sets may have
another order, and this document is left as it is. -/
structure Repeats (compiler : WorkloadCompiler) (world : World) (session : Session)
    (outcome : Graph × Option PolicyDocument) : Prop where
  unshared : outcome.1.Unshared
  again : ∀ (document : Graph) (index : Nat) (later : Session), document.Unshared →
    document.tree.hollow = outcome.1.tree.hollow →
    world.answers compiler.cluster later = world.answers compiler.cluster session →
    ∃ made last, (compiler.streamDocument index document).run world later =
        (.ok (made, outcome.2), last) ∧
      made.Unshared ∧ made.tree = document.tree ∧
      world.answers compiler.cluster last = world.answers compiler.cluster session

/-- A document without a policy stays without one. -/
theorem kept_repeats {document : Graph} (unshared : document.Unshared)
    (kept : ManifestDocument.view document ≠ .null → ∃ index after,
      (compiler.compile? index (ManifestDocument.view document)).run world session =
        (.ok none, after)) :
    compiler.Repeats world session (document, none) := by
  refine ⟨unshared, fun other index later otherUnshared same answers => ?_⟩
  have view : (ManifestDocument.view other).hollow = (ManifestDocument.view document).hollow :=
    otherUnshared.view_hollow_eq unshared same manifestDepth
  by_cases empty : ManifestDocument.view other = .null
  · refine ⟨other, later, ?_, otherUnshared, rfl, answers⟩
    rw [streamDocument, empty]
    rfl
  · have filled : ManifestDocument.view document ≠ .null := by
      rwa [ne_eq, ← Value.hollow_eq_null_iff, ← view, Value.hollow_eq_null_iff]
    obtain ⟨first, after, ran⟩ := kept filled
    obtain ⟨found, ranOther, alike⟩ := compile_same_hollow view ran
    obtain rfl : found = none := Option.map_eq_none_iff.mp alike
    obtain ⟨last, ranAgain, lastAnswers⟩ := compile_again ranOther answers
    refine ⟨other, last, ?_, otherUnshared, rfl, lastAnswers⟩
    rw [stream_document_eq index empty, run_bind, ranAgain]
    rfl

theorem read_of_compile {index : Nat} {manifest : Value} {workload : Workload} {policy : PolicyDocument}
    (ran : (compiler.compile? index manifest).run world session = (.ok (some (workload, policy)), after)) :
    Workload.ofDocument manifest compiler.cluster = .ok workload := by
  rcases compile_ok ran with ⟨none, -⟩ | ⟨made, same, compiled⟩
  · contradiction
  · obtain rfl := Option.some.inj same
    exact (of_manifest_yields (fun workload _ => policies_sound compiler workload)
      world session _ after compiled).1

/-- A document with a policy gets it again, and is left as it is. -/
theorem annotated_repeats {index : Nat} {document annotated : Graph} {workload : Workload}
    {policy : PolicyDocument} (unshared : document.Unshared)
    (ran : (compiler.compile? index (ManifestDocument.view document)).run world session =
      (.ok (some (workload, policy)), after))
    (done : document.annotate workload.kind policy.encoded = .ok annotated) :
    compiler.Repeats world session (annotated, some policy) := by
  have read := read_of_compile ran
  obtain ⟨fields, -, mapped, -⟩ := Workload.of_document_ok read
  have isMap : document.isMap document.root = true := Graph.is_map_of_view mapped
  obtain ⟨annotatedUnshared, views⟩ := unshared.annotate isMap done
  refine ⟨annotatedUnshared, fun other index later otherUnshared sameTree answers => ?_⟩
  have view : (ManifestDocument.view other).hollow =
      (Value.setAt (Graph.annotationPath workload.kind) (.text policy.encoded)
        (ManifestDocument.view document)).hollow :=
    (otherUnshared.view_hollow_eq annotatedUnshared sameTree manifestDepth).trans
      (congrArg Value.hollow (views manifestDepth (annotation_path_length workload.kind)))
  -- no field of the workload is read from where the policy was written
  have readAnnotated := Workload.of_document_annotated read (.text policy.encoded)
  have ranAnnotated := ran
  rw [← compile_congr _ (readAnnotated.trans read.symm)] at ranAnnotated
  obtain ⟨found, ranOther, alike⟩ := compile_same_hollow view ranAnnotated
  obtain ⟨⟨workloadOf, policyOf⟩, rfl, alike⟩ := Option.map_eq_some_iff.mp alike
  obtain ⟨sameKind, samePolicy⟩ := Prod.mk.inj (Option.some.inj alike)
  obtain rfl : policyOf = policy := samePolicy
  obtain ⟨last, ranAgain, lastAnswers⟩ := @compile_again _ _ _ _ _ _ index _ _ ranOther answers
  -- the way to the annotation is there, so that setting it cannot fail
  have carried : (ManifestDocument.view other).at? (Graph.annotationPath workload.kind) =
      some (.text policyOf.encoded) :=
    Value.at_scalar_of_hollow view.symm (Value.at_set_at _ _ _)
  obtain ⟨otherFields, -, otherMapped, -⟩ := Workload.of_document_ok (read_of_compile ranOther)
  have otherMap : other.isMap other.root = true := Graph.is_map_of_view otherMapped
  obtain ⟨again, doneAgain⟩ := Graph.annotate_again carried policyOf.encoded
  obtain ⟨againUnshared, -⟩ := otherUnshared.annotate otherMap doneAgain
  have annotates : ManifestDocument.annotate workloadOf.kind policyOf.encoded other = .ok again := by
    rw [show workloadOf.kind = workload.kind from sameKind]
    exact Outcome.map_error_ok_iff.mpr doneAgain
  have filled : ManifestDocument.view other ≠ .null := by simp [otherMapped]
  have ranAll : ∃ noted, (compiler.streamDocument index other).run world later =
      (.ok (again, some policyOf), noted) ∧
      world.answers compiler.cluster noted = world.answers compiler.cluster last := by
    rw [stream_document_eq index filled, run_bind, ranAgain]
    simp only [annotates, run_bind, run_of_except, run_note, run_pure]
    exact ⟨_, rfl, World.answers_congr compiler.cluster rfl rfl⟩
  obtain ⟨noted, ranAll, notedAnswers⟩ := ranAll
  refine ⟨again, noted, ranAll, againUnshared, ?_, notedAnswers.trans lastAnswers⟩
  rw [otherUnshared.annotate_tree otherMap doneAgain]
  have tree := sameTree.trans (congrArg Value.hollow (unshared.annotate_tree isMap done))
  exact Value.set_at_of_at (Value.at_scalar_of_hollow tree.symm (Value.at_set_at _ _ _))

theorem stream_document_repeats {index : Nat} {document : Graph}
    {outcome : Graph × Option PolicyDocument} (unshared : document.Unshared)
    (ran : (compiler.streamDocument index document).run world session = (.ok outcome, after)) :
    compiler.Repeats world session outcome ∧
      world.answers compiler.cluster after = world.answers compiler.cluster session := by
  by_cases empty : ManifestDocument.view document = .null
  · rw [streamDocument, empty] at ran
    obtain ⟨rfl, rfl⟩ : (document, none) = outcome ∧ session = after := by simpa using ran
    exact ⟨kept_repeats unshared fun filled => absurd empty filled, rfl⟩
  · rw [stream_document_eq index empty] at ran
    obtain ⟨found, middle, compiled, ran⟩ := run_bind_ok_iff.mp ran
    have kept := @Steady.leaves _ _ _ _ (steady_compile index _) _ _ _ compiled
    cases found with
    | none =>
        obtain ⟨rfl, rfl⟩ : (document, none) = outcome ∧ middle = after := by simpa using ran
        exact ⟨kept_repeats unshared fun _ => ⟨index, middle, compiled⟩, kept⟩
    | some made =>
        obtain ⟨workload, policy⟩ := made
        obtain ⟨annotated, done, ran⟩ := run_of_except_bind_ok_iff.mp ran
        rw [run_note_bind] at ran
        obtain ⟨rfl, rfl⟩ : (annotated, some policy) = outcome ∧ _ = after := by simpa using ran
        exact ⟨annotated_repeats unshared compiled (Outcome.map_error_ok_iff.mp done),
          (World.answers_congr compiler.cluster rfl rfl).trans kept⟩

theorem stream_repeats {documents : List Graph} {outcomes : List (Graph × Option PolicyDocument)}
    (passes : Passes (fun document before outcome later => ∃ index,
      (compiler.streamDocument index document).run world before = (.ok outcome, later))
      session documents outcomes after)
    (unshared : ∀ document ∈ documents, document.Unshared) :
    (∀ outcome ∈ outcomes, compiler.Repeats world session outcome) ∧
      world.answers compiler.cluster after = world.answers compiler.cluster session := by
  induction passes with
  | nil => exact ⟨by simp, rfl⟩
  | @cons session middle after document outcome documents outcomes first _ ih =>
      obtain ⟨index, first⟩ := first
      obtain ⟨here, rest⟩ := List.forall_mem_cons.mp unshared
      obtain ⟨repeats, kept⟩ := stream_document_repeats here first
      obtain ⟨others, keptRest⟩ := ih rest
      refine ⟨List.forall_mem_cons.mpr ⟨repeats, fun outcome member => ?_⟩, keptRest.trans kept⟩
      have other := others outcome member
      exact ⟨other.unshared, fun document index later unshared same answers => by
        rw [← kept] at answers ⊢
        exact other.again document index later unshared same answers⟩

/-- Documents with the trees of what was made before, but for their sets, get the same policies and stay
as they are. -/
theorem map_m_repeats {outcomes : List (Graph × Option PolicyDocument)}
    (repeats : ∀ outcome ∈ outcomes, compiler.Repeats world session outcome) {documents : List Graph}
    (unshared : ∀ document ∈ documents, document.Unshared)
    (same : hollowTrees documents = hollowTrees (outcomes.map (·.1))) (start : Nat)
    (answers : world.answers compiler.cluster later = world.answers compiler.cluster session) :
    ∃ again last, ((documents.zipIdx start).mapM fun item : Graph × Nat =>
        compiler.streamDocument item.2 item.1).run world later = (.ok again, last) ∧
      again.map (·.2) = outcomes.map (·.2) ∧
      again.map (fun outcome => outcome.1.tree) = documents.map Graph.tree ∧
      (∀ outcome ∈ again, outcome.1.Unshared) ∧
      world.answers compiler.cluster last = world.answers compiler.cluster session := by
  induction outcomes generalizing documents start later with
  | nil =>
      obtain rfl : documents = [] := by simpa [hollowTrees] using same
      exact ⟨[], later, rfl, rfl, rfl, by simp, answers⟩
  | cons outcome outcomes ih =>
      cases documents with
      | nil => exact absurd same (by simp [hollowTrees])
      | cons document documents =>
          obtain ⟨sameHere, sameRest⟩ := List.cons.inj same
          obtain ⟨repeatsHere, repeatsRest⟩ := List.forall_mem_cons.mp repeats
          obtain ⟨unsharedHere, unsharedRest⟩ := List.forall_mem_cons.mp unshared
          obtain ⟨made, middle, ran, madeUnshared, madeTree, kept⟩ :=
            repeatsHere.again document start later unsharedHere sameHere answers
          obtain ⟨rest, last, ranRest, policies, trees, restUnshared, keptRest⟩ :=
            ih repeatsRest unsharedRest sameRest (start + 1) kept
          refine ⟨(made, outcome.2) :: rest, last, ?_, by simp [policies], by simp [madeTree, trees],
            List.forall_mem_cons.mpr ⟨madeUnshared, restUnshared⟩, keptRest⟩
          rw [List.zipIdx_cons, List.mapM_cons, run_bind, ran]
          simp only
          rw [run_bind, ranRest]
          rfl

theorem stream_eq (compiler : WorkloadCompiler) (documents : List Graph) :
    compiler.stream documents =
      (documents.zipIdx.mapM fun item : Graph × Nat => compiler.streamDocument item.2 item.1) >>=
        fun compiled => pure ⟨compiled.filterMap (·.2), compiled.map (·.1)⟩ := rfl

/-- A result whose documents are compiled again to its policies, with any order of their sets. -/
structure Stable (compiler : WorkloadCompiler) (world : World) (session : Session)
    (first : StreamResult Graph) : Prop where
  unshared : ∀ document ∈ first.documents, document.Unshared
  again : ∀ (documents : List Graph) (later : Session), (∀ document ∈ documents, document.Unshared) →
    hollowTrees documents = hollowTrees first.documents →
    world.answers compiler.cluster later = world.answers compiler.cluster session →
    ∃ result last, (compiler.stream documents).run world later = (.ok result, last) ∧
      result.policies = first.policies ∧
      result.documents.map Graph.tree = documents.map Graph.tree ∧
      (∀ document ∈ result.documents, document.Unshared) ∧
      world.answers compiler.cluster last = world.answers compiler.cluster session

theorem stable_of_repeats {outcomes : List (Graph × Option PolicyDocument)} {first : StreamResult Graph}
    (policies : first.policies = outcomes.filterMap (·.2))
    (made : first.documents = outcomes.map (·.1))
    (repeats : ∀ outcome ∈ outcomes, compiler.Repeats world session outcome) :
    compiler.Stable world session first := by
  refine ⟨fun document member => ?_, fun documents later unshared same answers => ?_⟩
  · rw [made] at member
    obtain ⟨outcome, within, rfl⟩ := List.mem_map.mp member
    exact (repeats outcome within).unshared
  · rw [made] at same
    obtain ⟨again, last, ran, samePolicies, trees, againUnshared, kept⟩ :=
      map_m_repeats repeats unshared same 0 answers
    refine ⟨{ policies := again.filterMap (·.2), documents := again.map (·.1) }, last, ?_, ?_, ?_, ?_, kept⟩
    · rw [stream_eq, run_bind, ran]
      rfl
    · have sameFound := congrArg (List.filterMap id) samePolicies
      rw [List.filterMap_map, List.filterMap_map] at sameFound
      exact sameFound.trans policies.symm
    · exact (List.map_map ..).trans trees
    · exact List.forall_mem_map.mpr againUnshared

/-- Documents with the trees of a result are compiled to the same result. -/
theorem Stable.stream_same {first : StreamResult Graph} (stable : compiler.Stable world session first)
    {documents : List Graph} (unshared : ∀ document ∈ documents, document.Unshared)
    (same : documents.map Graph.tree = first.documents.map Graph.tree)
    (answers : world.answers compiler.cluster later = world.answers compiler.cluster session) :
    ∃ result last, (compiler.stream documents).run world later = (.ok result, last) ∧
      result.Same world.machine first ∧
      world.answers compiler.cluster last = world.answers compiler.cluster session := by
  obtain ⟨result, last, ran, policies, trees, resultUnshared, kept⟩ :=
    stable.again documents later unshared (hollow_trees_congr same) answers
  exact ⟨result, last, ran,
    StreamResult.same_of_trees world.machine policies (trees.trans same) resultUnshared stable.unshared, kept⟩

/-- Compiles what was written of a stream, a number of times. -/
def rounds (compiler : WorkloadCompiler) : Nat → StreamResult Graph → Compile (StreamResult Graph)
  | 0, first => return first
  | count + 1, first => do
      let result ← compiler.rounds count first
      compiler.streamText (← Compile.ofFault (result.yaml (← Compile.machine)))

/-- A round reads what the rounds before it have written. -/
theorem run_rounds_succ {count : Nat} {first result : StreamResult Graph} {middle : Session} {text : String}
    {documents : List Graph} (ran : (compiler.rounds count first).run world later = (.ok result, middle))
    (written : result.yaml world.machine = .ok text)
    (loaded : Yaml.documents world.machine text = .ok documents) :
    (compiler.rounds (count + 1) first).run world later = (compiler.stream documents).run world middle := by
  rw [rounds, run_bind, ran]
  simp only
  rw [run_machine_bind, run_bind, written, run_of_fault, ← run_read_text loaded]
  rfl

/-- Every round has the result of the first, if what that writes is read as the documents that it was
written for. -/
theorem Stable.rounds_same {first : StreamResult Graph} (stable : compiler.Stable world session first)
    {text : String} {documents : List Graph} (written : first.yaml world.machine = .ok text)
    (loaded : Yaml.documents world.machine text = .ok documents)
    (unshared : ∀ document ∈ documents, document.Unshared)
    (same : documents.map Graph.tree = first.documents.map Graph.tree)
    (answers : world.answers compiler.cluster later = world.answers compiler.cluster session)
    (count : Nat) :
    ∃ result last, (compiler.rounds count first).run world later = (.ok result, last) ∧
      result.Same world.machine first ∧
      world.answers compiler.cluster last = world.answers compiler.cluster session := by
  induction count with
  | zero => exact ⟨first, later, rfl, ⟨rfl, rfl, rfl, rfl, rfl⟩, answers⟩
  | succ count ih =>
      obtain ⟨result, middle, ran, sameResult, middleAnswers⟩ := ih
      obtain ⟨next, last, ranNext, sameNext, lastAnswers⟩ :=
        stable.stream_same unshared same middleAnswers
      -- a round reads the text of the one before it, which is that of the first
      have ranRound := run_rounds_succ ran (sameResult.yaml.trans written) loaded
      exact ⟨next, last, ranRound.trans ranNext, sameNext, lastAnswers⟩

/-- Every round has the policies of the first, as long as what is written is read back as it was but for
the order of sets. -/
theorem Stable.rounds_policies {first : StreamResult Graph} (stable : compiler.Stable world session first)
    (answers : world.answers compiler.cluster later = world.answers compiler.cluster session) (count : Nat)
    (reads : ∀ round < count, ∀ result last,
      (compiler.rounds round first).run world later = (.ok result, last) → result.ReadsBack world.machine) :
    ∃ result last, (compiler.rounds count first).run world later = (.ok result, last) ∧
      result.policies = first.policies ∧ hollowTrees result.documents = hollowTrees first.documents ∧
      world.answers compiler.cluster last = world.answers compiler.cluster session := by
  induction count with
  | zero => exact ⟨first, later, rfl, rfl, rfl, answers⟩
  | succ count ih =>
      obtain ⟨result, middle, ran, -, trees, middleAnswers⟩ :=
        ih fun round before => reads round (Nat.lt_succ_of_lt before)
      obtain ⟨text, again, written, loaded, isTree, readBack⟩ := reads count (Nat.lt_succ_self _) result middle ran
      have closed := Yaml.documents_closed loaded
      obtain ⟨next, last, ranNext, policies, nextTrees, -, lastAnswers⟩ :=
        stable.again again middle (fun document member => ⟨isTree document member, closed document member⟩)
          (readBack.trans trees) middleAnswers
      refine ⟨next, last, (run_rounds_succ ran written loaded).trans ranNext, policies, ?_, lastAnswers⟩
      exact ((hollow_trees_congr nextTrees).trans readBack).trans trees

/-- What a stream of documents without repetitions was compiled to is compiled to the same again. Of its
text, as long as it can be written and is read back as it was but for the order of sets, the policies are
the same in every round; and if it is read back with its sets as they were, then every round has the same
documents and texts. -/
theorem recompilation_stable
    {compiler : WorkloadCompiler}
    {text : String}
    {documents : List Graph}
    {world : World}
    {session after : Session}
    {first : StreamResult Graph}
    (loaded : Yaml.documents world.machine text = .ok documents)
    (unshared : ∀ document ∈ documents, document.IsTree)
    (compiled : (compiler.streamText text).run world session = (.ok first, after)) :
    world.answers compiler.cluster after = world.answers compiler.cluster session ∧
    ∀ later, world.answers compiler.cluster later = world.answers compiler.cluster session →
      (∃ second last, (compiler.stream first.documents).run world later = (.ok second, last) ∧
        second.Same world.machine first) ∧
      (∀ count, (∀ round < count, ∀ result last,
          (compiler.rounds round first).run world later = (.ok result, last) →
          result.ReadsBack world.machine) →
        ∃ result last, (compiler.rounds count first).run world later = (.ok result, last) ∧
          result.policies = first.policies ∧
          result.text world.machine = first.text world.machine ∧
          result.base64 world.machine = first.base64 world.machine) ∧
      ∀ written again, first.yaml world.machine = .ok written →
        Yaml.documents world.machine written = .ok again → (∀ document ∈ again, document.IsTree) →
        again.map Graph.tree = first.documents.map Graph.tree →
        ∀ count, ∃ result last, (compiler.rounds count first).run world later = (.ok result, last) ∧
          result.Same world.machine first := by
  rw [run_read_text loaded] at compiled
  obtain ⟨outcomes, passes, made, policies⟩ := stream_ok compiled
  have closed := Yaml.documents_closed loaded
  obtain ⟨repeats, kept⟩ := stream_repeats passes fun document member =>
    ⟨unshared document member, closed document member⟩
  have stable := stable_of_repeats policies made repeats
  refine ⟨kept, fun later answers => ⟨?_, fun count reads => ?_, fun written again done readBack againUnshared
    trees count => ?_⟩⟩
  · obtain ⟨second, last, ranAgain, same, -⟩ := stable.stream_same stable.unshared rfl answers
    exact ⟨second, last, ranAgain, same⟩
  · obtain ⟨result, last, ran, same, -⟩ := stable.rounds_policies answers count reads
    exact ⟨result, last, ran, same, by rw [StreamResult.text, StreamResult.text, same],
      by rw [StreamResult.base64, StreamResult.base64, same]⟩
  · have againClosed := Yaml.documents_closed readBack
    obtain ⟨result, last, ranRounds, same, -⟩ := stable.rounds_same done readBack
      (fun document member => ⟨againUnshared document member, againClosed document member⟩)
      trees answers count
    exact ⟨result, last, ranRounds, same⟩

/-- A template that carries a policy from before, and a list. -/
def staleText : String :=
  "kind: Deployment\nspec:\n  template:\n    metadata:\n      annotations:\n        " ++
    policyAnnotationKey ++ ": old\n    spec: \x7b\x7d\n---\n[]\n"

/-- Whether the links of documents lead to different values. -/
def linksApart (documents : List Graph) : Bool :=
  documents.all fun document => (document.root :: document.links.map (·.2)).Nodup

theorem is_tree_of_links_apart {documents : List Graph} (apart : linksApart documents = true) :
    ∀ document ∈ documents, document.IsTree := by
  intro document member
  have distinct := List.all_eq_true.mp apart document member
  exact Graph.is_tree_of_nodup (of_decide_eq_true distinct)

/-- What comes of a text when it is compiled and what is written of it is read: whether the links of the
documents lead to different values, and these of the documents read back, and whether their trees are the
same. -/
def survey (world : World) (text : String) : Except Fault (Bool × Except Failure (Except Fault (Bool × Bool))) := do
  let documents ← Yaml.documents world.machine text
  return (linksApart documents, (((({} : WorkloadCompiler).stream documents).run world {}).1.map fun first => do
    let again ← Yaml.documents world.machine (← first.yaml world.machine)
    return (linksApart again, again.map Graph.tree = first.documents.map Graph.tree)))

theorem stale_policy_stable :
    ∃ documents first after written again,
      Yaml.documents World.silent.machine staleText = .ok documents ∧ (∀ document ∈ documents, document.IsTree) ∧
      (({} : WorkloadCompiler).streamText staleText).run .silent {} = (.ok first, after) ∧
      (∃ second last, (({} : WorkloadCompiler).stream first.documents).run .silent after =
        (.ok second, last) ∧ second.Same World.silent.machine first) ∧
      first.yaml World.silent.machine = .ok written ∧
      Yaml.documents World.silent.machine written = .ok again ∧ (∀ document ∈ again, document.IsTree) ∧
      again.map Graph.tree = first.documents.map Graph.tree ∧
      ∀ count, ∃ result last, (({} : WorkloadCompiler).rounds count first).run .silent {} =
        (.ok result, last) ∧ result.Same World.silent.machine first := by
  have surveyed : survey .silent staleText = .ok (true, .ok (.ok (true, true))) := by decide +kernel
  obtain ⟨documents, loaded, outcome⟩ := Outcome.bind_ok_iff.mp surveyed
  obtain ⟨unshared, outcome⟩ := Prod.mk.inj (Except.ok.inj outcome)
  obtain ⟨first, streamed, outcome⟩ := Outcome.map_ok_iff.mp outcome
  obtain ⟨written, done, outcome⟩ := Outcome.bind_ok_iff.mp outcome
  obtain ⟨again, readBack, outcome⟩ := Outcome.bind_ok_iff.mp outcome
  obtain ⟨againUnshared, trees⟩ := Prod.mk.inj (Except.ok.inj outcome)
  rw [← run_read_text loaded] at streamed
  obtain ⟨after, ran⟩ := run_of_result streamed
  have unshared := is_tree_of_links_apart unshared
  have againUnshared := is_tree_of_links_apart againUnshared
  have trees := of_decide_eq_true trees
  obtain ⟨kept, stable⟩ := recompilation_stable loaded unshared ran
  exact ⟨documents, first, after, written, again, loaded, unshared, ran, (stable after kept).1, done, readBack,
    againUnshared, trees, (stable {} rfl).2.2 written again done readBack againUnshared trees⟩

/-- A pod with a number beside it. -/
def numberedPod (n : Int) : Graph where
  contents := #[.map [({ scalar := .text "kind" }, 1), ({ scalar := .text "spec" }, 2), ({ scalar := .text "x" }, 3)],
    .scalar (.text "Pod"), .map [], .scalar (.int n)]
  root := 0

/-- A pod with a set beside it. -/
def membersText : String := "kind: Pod\nspec: \x7b\x7d\nx: !!set \x7b7, 15\x7d\n"

/-- Surroundings in which sets are gone through backwards. -/
def backwards : World :=
  { World.silent with
    machine := { Machine.standard with arrange := List.reverse, arrange_perm := List.reverse_perm } }

/-- The pod with its policy and the members in an order. -/
def writtenMembers (first second : String) : String :=
  "kind: Pod\nspec: \x7b\x7d\nx: !!set\n  " ++ first ++ ": null\n  " ++ second ++ ": null\nmetadata:\n" ++
    "  annotations:\n    " ++ policyAnnotationKey ++
    ": ewogICJ2ZXJzaW9uIjogIjAuMS4wIiwKICAiY29udGFpbmVycyI6IHt9Cn0=\n"

theorem members_change_places :
    ((({} : WorkloadCompiler).streamText membersText).run backwards {}).1.map (·.yaml backwards.machine) =
        .ok (.ok (writtenMembers "15" "7")) ∧
      ((({} : WorkloadCompiler).streamText (writtenMembers "15" "7")).run backwards {}).1.map
          (·.yaml backwards.machine) =
        .ok (.ok (writtenMembers "7" "15")) := by
  constructor <;> decide +kernel

/-- A stream with a number whose numeral is one digit too long is compiled and not written; and where the
order of a set changes when it is read, the text of a stream changes from round to round. -/
theorem rewriting_not_stable :
    ((numberedPod (Nat.pow 10 Text.longestNumeral)).IsTree ∧
      ∃ first after, (({} : WorkloadCompiler).stream [numberedPod (Nat.pow 10 Text.longestNumeral)]).run
          .silent {} = (.ok first, after) ∧ first.yaml World.silent.machine = .error .badValue) ∧
    ∃ first second after last text other,
      (({} : WorkloadCompiler).streamText membersText).run backwards {} = (.ok first, after) ∧
      first.yaml backwards.machine = .ok text ∧
      (({} : WorkloadCompiler).streamText text).run backwards {} = (.ok second, last) ∧
      second.yaml backwards.machine = .ok other ∧ text ≠ other := by
  constructor
  · have written : (((({} : WorkloadCompiler).stream [numberedPod (Nat.pow 10 Text.longestNumeral)]).run
        .silent {}).1.map fun first => first.yaml World.silent.machine) = .ok (.error .badValue) := by
      decide +kernel
    obtain ⟨first, made, refused⟩ := Outcome.map_ok_iff.mp written
    obtain ⟨after, ran⟩ := run_of_result made
    exact ⟨Graph.is_tree_of_nodup (by decide +kernel), first, after, ran, refused⟩
  · obtain ⟨made, madeAgain⟩ := members_change_places
    obtain ⟨first, made, written⟩ := Outcome.map_ok_iff.mp made
    obtain ⟨second, madeAgain, rewritten⟩ := Outcome.map_ok_iff.mp madeAgain
    obtain ⟨after, ran⟩ := run_of_result made
    obtain ⟨last, ranAgain⟩ := run_of_result madeAgain
    exact ⟨first, second, after, last, _, _, ran, written, ranAgain, rewritten, by decide +kernel⟩

end WorkloadCompiler

end LaunchPolicy
