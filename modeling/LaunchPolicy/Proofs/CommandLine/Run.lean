import LaunchPolicy.CommandLine.Run
import LaunchPolicy.Proofs.CommandLine.Request
import LaunchPolicy.Proofs.Compile.Carried
import LaunchPolicy.Proofs.Files.Tree

/-!
What runs leave. Nothing is written and nothing is shown before all is compiled, so that a run that is
refused its settings, its file or a policy leaves the files as they are and one report. What a run that
succeeds leaves of its policies, on the screen and in files, is one result.
-/

namespace LaunchPolicy.CommandLine

open Compile (run_bind_ok_iff run_machine_bind run_of_fault)

variable {wording : Wording} {tree after : FileTree}

namespace Outcome

variable {outcome final : Outcome}

/-- Writing does not make up for a failure. -/
theorem exit_of_write_all {writings : List Writing}
    (written : outcome.writeAll tree writings = .ok (final, after)) (succeeded : final.exit = 0) :
    outcome.exit = 0 := by
  induction writings generalizing outcome tree with
  | nil =>
      obtain ⟨rfl, rfl⟩ := Prod.mk.inj (Except.ok.inj written)
      exact succeeded
  | cons writing writings ih =>
      rw [writeAll] at written
      split at written
      · have clean : (outcome.wrote writing).exit = 0 := ih written
        exact clean
      · obtain ⟨rfl, -⟩ := Prod.mk.inj (Except.ok.inj written)
        exact absurd succeeded (by simp [fail])
      · cases written

theorem write_all_ok {writings : List Writing}
    (written : outcome.writeAll tree writings = .ok (final, after)) (succeeded : final.exit = 0)
    (apart : writings.Pairwise fun writing later => tree.Apart writing.path later.path) :
    final.output = outcome.output ++ String.join (writings.map fun writing => writing.path ++ " created.\n") ∧
      (∀ writing ∈ writings, after.read writing.path = .ok writing.text.toUTF8.toList) ∧
      ∀ path octets, tree.read path = .ok octets → (∀ writing ∈ writings, tree.Apart path writing.path) →
        after.read path = .ok octets := by
  induction writings generalizing outcome tree with
  | nil =>
      obtain ⟨rfl, rfl⟩ := Prod.mk.inj (Except.ok.inj written)
      exact ⟨by simp [String.join], by simp, fun _ _ known _ => known⟩
  | cons writing writings ih =>
      rw [writeAll] at written
      split at written
      · rename_i middle first
        obtain ⟨others, apart⟩ := List.pairwise_cons.mp apart
        obtain ⟨output, reads, keeps⟩ := ih written (apart.imp fun here => here.written first)
        have apartNow : ∀ path, (∀ later ∈ writings, tree.Apart path later.path) →
            ∀ later ∈ writings, middle.Apart path later.path :=
          fun path here later member => (here later member).written first
        refine ⟨?_, List.forall_mem_cons.mpr ⟨?_, reads⟩, ?_⟩
        · rw [output, wrote, List.map_cons, String.join_cons]
          simp only [String.append_assoc]
        · exact keeps _ _ (FileTree.read_written first) (apartNow _ others)
        · intro path octets known here
          obtain ⟨hereFirst, hereRest⟩ := List.forall_mem_cons.mp here
          exact keeps _ _ (FileTree.read_apart first hereFirst known) (apartNow _ hereRest)
      · obtain ⟨rfl, -⟩ := Prod.mk.inj (Except.ok.inj written)
        exact absurd succeeded (by simp [fail])
      · cases written

theorem exit_of_complete (completed : outcome.complete tree = .ok (final, after))
    (succeeded : final.exit = 0) : outcome.exit = 0 :=
  @exit_of_write_all tree after { outcome with writings := [] } final outcome.writings completed succeeded

end Outcome

namespace Invocation

variable {i : Invocation} {host : Host}

/-- A run in a tree of files, with the files that it writes. -/
def runIn (i : Invocation) (tree : FileTree) (host : Host) (wording : Wording) :
    Except Fault (Outcome × FileTree) := do
  (← i.run { host with files := tree.files } wording).complete tree

/-- Settings that are refused, a file that cannot be read and a policy that cannot be compiled, with the
report of each and what was noted before it. -/
inductive Refuses (i : Invocation) (host : Host) (wording : Wording) : Text → List Event → Prop
  | settings {e : PolicyError}
      (refused : i.settings host = .error (.policy e)) :
      Refuses i host wording (e.message wording) []
  | source {settings : Settings} {refusal : FileRefusal}
      (configured : i.settings host = .ok settings)
      (refused : i.source host.files = .error (.refused refusal)) :
      Refuses i host wording
        (.string ("cannot read " ++ i.input.getD "" ++ ": " ++ refusal.text (i.input.getD ""))) []
  | compilation {settings : Settings} {source : Source} {e : PolicyError} {session : Session}
      (configured : i.settings host = .ok settings)
      (read : i.source host.files = .ok source)
      (refused : (source.compile (.ofSettings settings)).run host.world {} =
        (.error (.policy e), session)) :
      Refuses i host wording (e.message wording) session.events

theorem log_text_nil (i : Invocation) (host : Host) (wording : Wording) :
    i.logText host wording [] = "" := rfl

/-- A refusal comes before anything is shown or written. -/
theorem run_refused {report : Text} {events : List Event}
    (refuses : i.Refuses host wording report events) :
    ∃ calls, i.run host wording = .ok
      { exit := 1, errors := i.logText host wording events ++ "Error: " ++ report.streamed ++ "\n", calls } := by
  cases refuses with
  | settings refused =>
      refine ⟨[], ?_⟩
      rw [run, refused, log_text_nil]
      rfl
  | source configured refused =>
      refine ⟨[], ?_⟩
      rw [run, configured, log_text_nil]
      simp only [refused]
      rfl
  | @compilation settings source e session configured read refused =>
      refine ⟨session.calls, ?_⟩
      rw [run, configured]
      simp only [read, compile, refused]
      rfl

theorem run_in_refused {report : Text} {events : List Event}
    (refuses : i.Refuses { host with files := tree.files } wording report events) :
    ∃ outcome, i.runIn tree host wording = .ok (outcome, tree) ∧ outcome.exit = 1 ∧
      outcome.output = "" ∧
      outcome.errors = i.logText host wording events ++ "Error: " ++ report.streamed ++ "\n" := by
  obtain ⟨calls, ran⟩ := run_refused refuses
  exact ⟨_, by rw [runIn, ran]; rfl, rfl, rfl, rfl⟩

/-- A run that succeeds compiled what it was given. -/
theorem run_ok {outcome : Outcome} (ran : i.run host wording = .ok outcome) (succeeded : outcome.exit = 0) :
    ∃ settings source product session, i.settings host = .ok settings ∧
      i.source host.files = .ok source ∧
      (source.compile (.ofSettings settings)).run host.world {} = (.ok product, session) ∧
      outcome.output = i.tell product ∧ outcome.writings = i.writings product := by
  rw [run] at ran
  split at ran
  · cases ran
  · obtain rfl := Except.ok.inj ran
    exact absurd succeeded (by simp [Outcome.fail])
  · rename_i settings configured
    split at ran
    · rename_i source read
      rw [compile] at ran
      rcases compiled : (source.compile (.ofSettings settings)).run host.world {} with ⟨r, session⟩
      simp only [compiled] at ran
      split at ran
      · cases ran
      · obtain rfl := Except.ok.inj ran
        exact absurd succeeded (by simp [Outcome.fail])
      · rename_i product
        obtain rfl := Except.ok.inj ran
        exact ⟨settings, source, product, session, configured, read, compiled, rfl, rfl⟩
    · cases ran
    · obtain rfl := Except.ok.inj ran
      exact absurd succeeded (by simp [Outcome.fail])

/-- The source of a run that names a file is the text of that file. -/
theorem source_of_input (exclusive : i.Exclusive) {path : String} (input : i.input = some path)
    {files : Files} {source : Source} (read : i.source files = .ok source) :
    ∃ text, files.text path = .ok text ∧ source = .manifests text := by
  have noImage : i.image = none := exclusive.resolve_left (by simp [input])
  rw [Invocation.source, input, noImage] at read
  split at read
  · contradiction
  · contradiction
  · contradiction
  · cases read
  · rename_i same _ _
    obtain rfl := Option.some.inj same
    obtain ⟨text, found, rfl⟩ := Outcome.map_ok_iff.mp read
    exact ⟨text, found, rfl⟩

theorem writing_eq_some_iff {path : Option String} {text : String} {writing : Writing} :
    writing? path text = some writing ↔
      path = some writing.path ∧ writing.path ≠ "" ∧ writing.text = text := by
  rcases writing with ⟨target, content⟩
  unfold writing?
  split
  · simp
  · simp +contextual
  · rename_i given
    simp only [Option.some.injEq, Writing.mk.injEq]
    grind

theorem writings_eq (i : Invocation) (product : Product) :
    i.writings product =
      (writing? i.policy product.policy).toList ++ (writing? i.output product.manifests).toList := by
  rw [writings]
  cases writing? i.policy product.policy <;> cases writing? i.output product.manifests <;> rfl

theorem mem_writings {product : Product} {writing : Writing} :
    writing ∈ i.writings product ↔
      (i.policy = some writing.path ∧ writing.path ≠ "" ∧ writing.text = product.policy) ∨
        (i.output = some writing.path ∧ writing.path ≠ "" ∧ writing.text = product.manifests) := by
  rw [writings_eq, List.mem_append, Option.mem_toList, Option.mem_toList, writing_eq_some_iff,
    writing_eq_some_iff]

/-- The files that a run is asked to write. -/
def targets (i : Invocation) : List String := (i.policy.toList ++ i.output.toList).filter (· ≠ "")

theorem writing_path (path : Option String) (text : String) :
    (writing? path text).toList.map Writing.path = path.toList.filter (· ≠ "") := by
  unfold writing?
  split
  · rfl
  · rfl
  · rename_i target given
    exact (List.filter_eq_self.mpr (by simpa using given)).symm

theorem writings_paths (i : Invocation) (product : Product) :
    (i.writings product).map Writing.path = i.targets := by
  rw [writings_eq, List.map_append, writing_path, writing_path, targets, List.filter_append]

theorem writings_apart {product : Product}
    (apart : ∀ policyPath manifestPath, i.policy = some policyPath → i.output = some manifestPath →
      tree.Apart policyPath manifestPath) :
    (i.writings product).Pairwise fun writing later => tree.Apart writing.path later.path := by
  rw [writings_eq, List.pairwise_append]
  refine ⟨?_, ?_, fun writing member later laterMember => ?_⟩
  · cases writing? i.policy product.policy <;> simp
  · cases writing? i.output product.manifests <;> simp
  · obtain ⟨policy, -⟩ := writing_eq_some_iff.mp (Option.mem_toList.mp member)
    obtain ⟨output, -⟩ := writing_eq_some_iff.mp (Option.mem_toList.mp laterMember)
    exact apart _ _ policy output

/-- What a run that compiles the manifests in a file leaves of the result: the text of the policies on
the screen and in a file, their transport form on the screen with its length, and the manifests in
another file, from where the policies can be decoded unless one of them has halves that stand like a
pair. -/
structure Delivers (i : Invocation) (tree : FileTree) (host : Host) (path : String)
    (result : StreamResult Yaml.Graph) (product : Product) (outcome : Outcome) (after : FileTree) : Prop where
  compiled : ∃ settings text session, i.settings { host with files := tree.files } = .ok settings ∧
    tree.files.text path = .ok text ∧
    ((WorkloadCompiler.ofSettings settings).streamText text).run host.world {} = (.ok result, session)
  text : result.text host.machine = .ok product.policy
  base64 : result.base64 host.machine = .ok product.base64
  yaml : result.yaml host.machine = .ok product.manifests
  shown : outcome.output =
    (if i.verbosity = 0 then "" else
      "Security Policy: " ++ product.policy ++ "\nBase64 encoding: " ++ product.base64 ++
        "\nEncoding size: " ++ toString product.base64.length ++ "\n") ++
      String.join (i.targets.map (· ++ " created.\n"))
  policies : ∀ target, i.policy = some target → target ≠ "" →
    after.read target = .ok product.policy.toUTF8.toList
  manifests : ∀ target, i.output = some target → target ≠ "" →
    after.read target = .ok product.manifests.toUTF8.toList
  carried : ∀ again, Yaml.documents host.machine product.manifests = .ok again →
    again.map ManifestDocument.view = result.documents.map ManifestDocument.view →
    (again.map ManifestDocument.view).filterMap carried? = result.policies.map PolicyDocument.encoded
  decoded : (result.policies.map PolicyDocument.encoded).mapM (PolicyDocument.ofBase64 host.machine) =
      .ok result.policies ↔ ∀ policy ∈ result.policies, policy.Unjoined

theorem source_compile_ok {compiler : WorkloadCompiler} {text : String} {world : World}
    {session last : Session} {product : Product}
    (compiled : (Source.compile compiler (.manifests text)).run world session = (.ok product, last)) :
    ∃ result, (compiler.streamText text).run world session = (.ok result, last) ∧
      result.text world.machine = .ok product.policy ∧ result.base64 world.machine = .ok product.base64 ∧
      result.yaml world.machine = .ok product.manifests := by
  rw [Source.compile] at compiled
  obtain ⟨result, middle, streamed, compiled⟩ := run_bind_ok_iff.mp compiled
  rw [run_machine_bind, run_of_fault] at compiled
  obtain ⟨made, rfl⟩ := Prod.mk.inj compiled
  obtain ⟨policy, text, made⟩ := LaunchPolicy.Outcome.bind_ok_iff.mp
    (LaunchPolicy.Outcome.map_error_ok_iff.mp made)
  obtain ⟨encoded, base64, made⟩ := LaunchPolicy.Outcome.bind_ok_iff.mp made
  obtain ⟨manifests, yaml, made⟩ := LaunchPolicy.Outcome.bind_ok_iff.mp made
  obtain rfl := Except.ok.inj made
  exact ⟨result, streamed, text, base64, yaml⟩

theorem run_in_delivers {path : String} {outcome : Outcome} (exclusive : i.Exclusive)
    (input : i.input = some path) (ran : i.runIn tree host wording = .ok (outcome, after))
    (succeeded : outcome.exit = 0)
    (apart : ∀ policyPath manifestPath, i.policy = some policyPath → i.output = some manifestPath →
      tree.Apart policyPath manifestPath) :
    ∃ result product, i.Delivers tree host path result product outcome after := by
  obtain ⟨before, ran, written⟩ := LaunchPolicy.Outcome.bind_ok_iff.mp ran
  obtain ⟨settings, source, product, session, configured, read, compiled, shown, asked⟩ :=
    run_ok ran (Outcome.exit_of_complete written succeeded)
  obtain ⟨text, found, rfl⟩ := source_of_input exclusive input read
  obtain ⟨result, streamed, policies, base64, yaml⟩ := source_compile_ok compiled
  rw [Outcome.complete, asked] at written
  obtain ⟨output, reads, -⟩ := Outcome.write_all_ok written succeeded (writings_apart apart)
  have ranStream := streamed
  rw [WorkloadCompiler.run_stream_text] at ranStream
  obtain ⟨documents, middle, read, ranStream⟩ := run_bind_ok_iff.mp ranStream
  refine ⟨result, product, ⟨settings, text, session, configured, found, streamed⟩, policies, base64, yaml, ?_,
    ?_, ?_, ?_, ?_⟩
  · rw [output, ← writings_paths, List.map_map, shown, tell]
    rfl
  · intro target policy filled
    exact reads ⟨target, product.policy⟩ (mem_writings.mpr (.inl ⟨policy, filled, rfl⟩))
  · intro target manifests filled
    exact reads ⟨target, product.manifests⟩ (mem_writings.mpr (.inr ⟨manifests, filled, rfl⟩))
  · intro again _ same
    exact (WorkloadCompiler.policies_carried ranStream same).1
  · exact (WorkloadCompiler.policies_carried ranStream rfl).2

end Invocation

/-- A run that is refused its settings, its file or a policy shows one report and leaves every file as it
is. A run that succeeds on a file of manifests shows and writes one result, and the manifests that it
writes, as long as they are read as they were written, carry the policies of the result. -/
theorem no_output_unless_compiled
    {arguments : List String}
    {i : Invocation}
    (asked : Request.ofArguments arguments = .ok (.compile i))
    (wording : Wording)
    (host : Host)
    (tree : FileTree) :
    (∀ report events, i.Refuses { host with files := tree.files } wording report events →
      ∃ outcome, i.runIn tree host wording = .ok (outcome, tree) ∧ outcome.exit = 1 ∧
        outcome.output = "" ∧
        outcome.errors = i.logText host wording events ++ "Error: " ++ report.streamed ++ "\n") ∧
    ∀ path outcome after, i.input = some path →
      i.runIn tree host wording = .ok (outcome, after) → outcome.exit = 0 →
      (∀ policyPath manifestPath, i.policy = some policyPath → i.output = some manifestPath →
        tree.Apart policyPath manifestPath) →
      ∃ result product, i.Delivers tree host path result product outcome after := by
  constructor
  · intro report events refuses
    exact Invocation.run_in_refused refuses
  · intro path outcome after input ran succeeded apart
    exact Invocation.run_in_delivers (Request.exclusive asked) input ran succeeded apart

def podText : String := "kind: Pod\nspec: \x7b\x7d\n---\nkind: Service\n"

def podTree : FileTree where
  contents := [(["pod.yaml"], podText.toUTF8.toList)]
  directories := [["/"], ["policies"]]

def quietHost : Host where
  files := podTree.files
  environment _ := none
  world := .silent

/-- A compilation of a pod that is written over it. -/
def podInvocation : Invocation where
  input := some "pod.yaml"
  policy := some "policy.json"
  output := some "policies/../pod.yaml"
  verbosity := 1

theorem pod_carries_policy :
    Request.ofArguments ["-vi", "pod.yaml", "-ppolicy.json", "--output=policies/../pod.yaml"] =
        .ok (.compile podInvocation) ∧
      (∃ outcome, podInvocation.runIn {} quietHost Fault.text = .ok (outcome, {}) ∧
        outcome.exit = 1 ∧ outcome.output = "") ∧
      ∃ result product outcome after again,
        podInvocation.runIn podTree quietHost Fault.text = .ok (outcome, after) ∧ outcome.exit = 0 ∧
        podInvocation.Delivers podTree quietHost "pod.yaml" result product outcome after ∧
        Yaml.documents quietHost.machine product.manifests = .ok again ∧
        again.map ManifestDocument.view = result.documents.map ManifestDocument.view ∧
        result.policies = [{}] ∧
        (again.map ManifestDocument.view).filterMap carried? = [PolicyDocument.encoded {}] ∧
        PolicyDocument.ofBase64 quietHost.machine (PolicyDocument.encoded {}) = .ok {} := by
  have asked : Request.ofArguments
      ["-vi", "pod.yaml", "-ppolicy.json", "--output=policies/../pod.yaml"] =
        .ok (.compile podInvocation) := by decide +kernel
  have configured : ∀ files, podInvocation.settings { quietHost with files } = .ok {} := fun _ => by
    rfl
  have podFound : podTree.files.text "pod.yaml" = .ok podText := by decide +kernel
  have missing : ({} : FileTree).files.text "pod.yaml" = .error (.refused .missing) := by
    decide +kernel
  have unreadable : podInvocation.source ({} : FileTree).files = .error (.refused .missing) := by
    rw [Invocation.source]
    change Source.manifests <$> ({} : FileTree).files.text "pod.yaml" = _
    rw [missing]
    rfl
  have exits : (podInvocation.runIn podTree quietHost Fault.text).map (fun left => left.1.exit) =
      .ok 0 := by
    decide +kernel
  have policyPlace : podTree.place "policy.json" = .ok (["policy.json"], false) := by decide +kernel
  have manifestPlace : podTree.place "policies/../pod.yaml" = .ok (["pod.yaml"], false) := by
    decide +kernel
  have apart : ∀ policyPath manifestPath, podInvocation.policy = some policyPath →
      podInvocation.output = some manifestPath → podTree.Apart policyPath manifestPath := by
    rintro _ _ ⟨⟩ ⟨⟩ place led same
    have one := policyPlace.symm.trans led
    have other := manifestPlace.symm.trans same
    simp only [Except.ok.injEq, Prod.mk.injEq, and_true] at one other
    exact absurd (one.trans other.symm) (by decide)
  obtain ⟨⟨outcome, after⟩, ran, succeeded⟩ := LaunchPolicy.Outcome.map_ok_iff.mp exits
  obtain ⟨refused, absent, failed, silent, -⟩ :=
    (no_output_unless_compiled asked Fault.text quietHost {}).1 _ _
      (.source (configured _) unreadable)
  obtain ⟨result, product, delivers⟩ :=
    (no_output_unless_compiled asked Fault.text quietHost podTree).2 _ _ _ rfl ran succeeded apart
  obtain ⟨settings, text, session, configuredToo, found, streamed⟩ := delivers.compiled
  obtain rfl := Except.ok.inj ((configured podTree.files).symm.trans configuredToo)
  obtain rfl := Except.ok.inj (podFound.symm.trans found)
  have evaluated : (((WorkloadCompiler.ofSettings {}).streamText podText).run quietHost.world {}).1.map
      (fun result => (decide (result.policies = [{}]), (result.yaml quietHost.machine).map fun text =>
        (Yaml.documents quietHost.machine text).map fun again =>
          decide (again.map ManifestDocument.view = result.documents.map ManifestDocument.view))) =
      .ok (true, .ok (.ok true)) := by
    decide +kernel
  rw [streamed] at evaluated
  obtain ⟨single, readBack⟩ := Prod.mk.inj (Except.ok.inj evaluated)
  have made : result.policies = [{}] := of_decide_eq_true single
  obtain ⟨text, written, readBack⟩ := LaunchPolicy.Outcome.map_ok_iff.mp readBack
  obtain rfl := Except.ok.inj (written.symm.trans delivers.yaml)
  obtain ⟨again, loaded, same⟩ := LaunchPolicy.Outcome.map_ok_iff.mp readBack
  have same := of_decide_eq_true same
  have unjoined : PolicyDocument.Unjoined {} := by
    simp [PolicyDocument.Unjoined, PolicyDocument.toValue, Value.consists_object_iff, Value.consists_scalar_iff]
  have decoded := delivers.decoded.mpr (by simpa [made] using unjoined)
  have carried := delivers.carried again loaded same
  rw [made] at decoded carried
  have each := LaunchPolicy.Outcome.map_m_ok_iff.mp decoded
  exact ⟨asked, ⟨refused, absent, failed, silent⟩, result, product, outcome, after, again, ran, succeeded,
    delivers, loaded, same, made, carried, (List.forall₂_cons.mp each).1⟩

def halvesTree : FileTree where
  contents := [(["pod.yaml"], WorkloadCompiler.halvesText.toUTF8.toList)]
  directories := [["/"]]

def shellHost : Host := { quietHost with files := halvesTree.files, world := .shell }

def halvesInvocation : Invocation where
  input := some "pod.yaml"
  output := some "carried.yaml"

/-- What the run writes carries its policy, but it is not decoded from there. -/
theorem joined_halves_written :
    ∃ result product outcome after,
      halvesInvocation.runIn halvesTree shellHost Fault.text = .ok (outcome, after) ∧ outcome.exit = 0 ∧
      halvesInvocation.Delivers halvesTree shellHost "pod.yaml" result product outcome after ∧
      ∀ again, Yaml.documents shellHost.machine product.manifests = .ok again →
        again.map ManifestDocument.view = result.documents.map ManifestDocument.view →
        ((again.map ManifestDocument.view).filterMap carried?).mapM (PolicyDocument.ofBase64 shellHost.machine) ≠
          .ok result.policies := by
  have exits : (halvesInvocation.runIn halvesTree shellHost Fault.text).map (fun left => left.1.exit) =
      .ok 0 := by
    decide +kernel
  have apart : ∀ policyPath manifestPath, halvesInvocation.policy = some policyPath →
      halvesInvocation.output = some manifestPath → halvesTree.Apart policyPath manifestPath := by
    rintro _ _ ⟨⟩
  have found : halvesTree.files.text "pod.yaml" = .ok WorkloadCompiler.halvesText := by decide +kernel
  obtain ⟨⟨outcome, after⟩, ran, succeeded⟩ := LaunchPolicy.Outcome.map_ok_iff.mp exits
  obtain ⟨result, product, delivers⟩ :=
    Invocation.run_in_delivers (.inr rfl) rfl ran succeeded apart
  obtain ⟨settings, text, session, configured, read, streamed⟩ := delivers.compiled
  have configuredToo : halvesInvocation.settings { shellHost with files := halvesTree.files } = .ok {} := by rfl
  obtain rfl := Except.ok.inj (configuredToo.symm.trans configured)
  obtain rfl := Except.ok.inj (found.symm.trans read)
  obtain ⟨compiled, last, policy, again, single, joined⟩ := WorkloadCompiler.halves_compiled
  obtain rfl : result = compiled := Except.ok.inj (Prod.mk.inj (streamed.symm.trans again)).1
  refine ⟨result, product, outcome, after, ran, succeeded, delivers, fun documents written same decoded => ?_⟩
  rw [delivers.carried documents written same, delivers.decoded, single] at decoded
  exact joined (decoded policy (List.mem_singleton_self policy))

end LaunchPolicy.CommandLine
