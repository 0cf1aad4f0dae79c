import LaunchPolicy.Compile.Stream
import LaunchPolicy.Proofs.Compile.Failure
import LaunchPolicy.Proofs.Compile.Typed
import LaunchPolicy.Proofs.Manifest.Annotation
import LaunchPolicy.Proofs.Manifest.Workload
import LaunchPolicy.Proofs.Policy.Read

/-!
Streams document by document. A document passes unchanged exactly when there are no policies for
its kind; any other carries the policy that was compiled for it, and the policies of a stream are
those of its annotations, in the order of the documents.
-/

namespace LaunchPolicy

open Compile (run_bind_ok_iff Passes)

namespace WorkloadKind

/-- The kind of a document, if there are policies for it. -/
def ofDocument? (document : Value) : Option WorkloadKind :=
  match document.get? "kind" with
  | some (.scalar (.text name)) => ofName? name
  | _ => none

theorem of_document_eq_some_iff {document : Value} {kind : WorkloadKind} :
    ofDocument? document = some kind ↔
      ∃ fields, document = .map fields ∧ ofManifest fields = .ok kind := by
  cases document with
  | map fields =>
      have unnamed : ofName? "" = none := by decide
      simp only [ofDocument?, Value.get?, ofManifest, Value.map.injEq, exists_eq_left']
      cases Fields.get? fields (.text "kind") with
      | none => simp [unnamed]
      | some named =>
          cases named with
          | scalar s =>
              cases s with
              | text name => cases found : ofName? name <;> simp [found]
              | _ => simp
          | _ => simp
  | _ => simp [ofDocument?, Value.get?]

end WorkloadKind

namespace Workload

theorem of_document_refused {document : Value} (other : WorkloadKind.ofDocument? document = none)
    (cluster : Option ClusterSettings) : ∃ e, ofDocument document cluster = .error e := by
  cases document with
  | map fields =>
      rcases classified : WorkloadKind.ofManifest fields with e | kind
      · exact ⟨e, by rw [ofDocument, ofFields, classified]; rfl⟩
      · have supported := WorkloadKind.of_document_eq_some_iff.mpr ⟨fields, rfl, classified⟩
        rw [other] at supported
        contradiction
  | _ => exact ⟨_, rfl⟩

theorem of_document_kind {document : Value} {cluster : Option ClusterSettings} {workload : Workload}
    (read : ofDocument document cluster = .ok workload) :
    WorkloadKind.ofDocument? document = some workload.kind := by
  obtain ⟨fields, spec, same, classified, -⟩ := of_document_ok read
  exact WorkloadKind.of_document_eq_some_iff.mpr ⟨fields, same, classified⟩

end Workload

theorem StreamResult.base64_lines {D : Type} {machine : Machine} {result : StreamResult D} {text : String}
    (written : result.base64 machine = .ok text) (some : result.policies ≠ []) :
    result.policies.mapM (PolicyDocument.toBase64 machine) =
      .ok ((text.split '\n').toList.map (·.copy)) := by
  obtain ⟨lines, each, joined⟩ := Outcome.bind_ok_iff.mp written
  obtain rfl := Except.ok.inj joined
  have related := Outcome.map_m_ok_iff.mp each
  have clear : ∀ line ∈ lines, '\n' ∉ line.toList := by
    intro line member
    obtain ⟨policy, -, encoded⟩ := Outcome.related_result related member
    obtain ⟨octets, -, encodes⟩ := Outcome.bind_ok_iff.mp encoded
    obtain rfl := Except.ok.inj encodes
    rw [String.toList_ofList]
    exact Text.Base64.line_feed_not_mem_encode _
  have split := String.toList_split_intercalate clear
  rw [if_neg (by rintro rfl; simp_all)] at split
  rw [each]
  exact congrArg Except.ok split.symm

namespace WorkloadCompiler

variable {compiler : WorkloadCompiler} {world : World} {session after : Session}

theorem of_manifest_refused (compiler : WorkloadCompiler) {manifest : Value}
    (other : WorkloadKind.ofDocument? manifest = none) :
    ∃ e, (compiler.ofManifest manifest).run world session = (.error (.policy e), session) := by
  obtain ⟨e, refused⟩ := Workload.of_document_refused other compiler.cluster
  refine ⟨e, ?_⟩
  simp only [ofManifest, Workload.extract, refused, Compile.run_bind, Compile.run_of_policy]
  rfl

/-- Only the classification refuses a document for its kind, and before anything else is done. -/
theorem of_manifest_unsupported {manifest : Value} {reason : PolicyError}
    (ran : (compiler.ofManifest manifest).run world session = (.error (.policy reason), after))
    (unsupported : reason.isUnsupportedKind = true) :
    WorkloadKind.ofDocument? manifest = none ∧ after = session := by
  cases classified : WorkloadKind.ofDocument? manifest with
  | none =>
      obtain ⟨e, refused⟩ := of_manifest_refused compiler classified
      exact ⟨rfl, congrArg Prod.snd (ran.symm.trans refused)⟩
  | some kind =>
      obtain ⟨fields, rfl, supported⟩ := WorkloadKind.of_document_eq_some_iff.mp classified
      have regular : reason.isUnsupportedKind = false :=
        of_manifest_expected supported session _ after ran
      rw [unsupported] at regular
      contradiction

theorem of_manifest_ok {manifest : Value} {workload : Workload} {policy : PolicyDocument}
    (ran : (compiler.ofManifest manifest).run world session = (.ok (workload, policy), after)) :
    WorkloadKind.ofDocument? manifest = some workload.kind ∧ policy.Sound := by
  obtain ⟨read, sound⟩ := of_manifest_yields (fun workload _ => policies_sound compiler workload)
    world session _ after ran
  exact ⟨Workload.of_document_kind read, sound⟩

/-- A manifest that cannot be read is skipped for its kind, or fails. -/
theorem compile_unread {manifest : Value} {e : PolicyError}
    (unread : Workload.ofDocument manifest compiler.cluster = .error e) (index : Nat) (world : World)
    (session : Session) :
    (compiler.compile? index manifest).run world session =
      if e.isUnsupportedKind then
        (.ok none, { session with events := session.events ++ [.documentSkipped index e] })
      else (.error (.policy e), session) := by
  have refused : (compiler.ofManifest manifest).run world session = (.error (.policy e), session) := by
    rw [ofManifest, Workload.extract, unread]
    rfl
  rw [compile?, Compile.run_try_catch, Compile.run_map, refused]
  dsimp only
  split <;> rfl

/-- Of the failures of a compilation only the refusal of a kind is caught. -/
theorem compile_cases {index : Nat} {manifest : Value}
    {r : Except Failure (Option (Workload × PolicyDocument))}
    (ran : (compiler.compile? index manifest).run world session = (r, after)) :
    (∃ made, r = .ok (some made) ∧
        (compiler.ofManifest manifest).run world session = (.ok made, after)) ∨
      (∃ reason middle, r = .ok none ∧ reason.isUnsupportedKind = true ∧
        (compiler.ofManifest manifest).run world session = (.error (.policy reason), middle) ∧
        after = { middle with events := after.events }) ∨
      ∃ failure, r = .error failure ∧
        (compiler.ofManifest manifest).run world session = (.error failure, after) := by
  rw [compile?, Compile.run_try_catch, Compile.run_map] at ran
  rcases result : (compiler.ofManifest manifest).run world session with ⟨s, middle⟩
  rw [result] at ran
  cases s with
  | ok made =>
      obtain ⟨rfl, rfl⟩ := Prod.mk.inj ran
      exact .inl ⟨made, rfl, rfl⟩
  | error failure =>
      cases failure with
      | data fault =>
          obtain ⟨rfl, rfl⟩ := Prod.mk.inj ran
          exact .inr (.inr ⟨_, rfl, rfl⟩)
      | policy reason =>
          simp only at ran
          split at ran
          · rename_i unsupported
            rw [Compile.run_note_bind] at ran
            obtain ⟨rfl, rfl⟩ := Prod.mk.inj ran
            exact .inr (.inl ⟨reason, middle, rfl, unsupported, rfl, rfl⟩)
          · obtain ⟨rfl, rfl⟩ := Prod.mk.inj ran
            exact .inr (.inr ⟨_, rfl, rfl⟩)

/-- A document without a policy is of another kind, and the one with a policy was compiled. -/
theorem compile_ok {index : Nat} {manifest : Value} {found : Option (Workload × PolicyDocument)}
    (ran : (compiler.compile? index manifest).run world session = (.ok found, after)) :
    (found = none ∧ WorkloadKind.ofDocument? manifest = none ∧
        after = { session with events := after.events }) ∨
      ∃ made, found = some made ∧
        (compiler.ofManifest manifest).run world session = (.ok made, after) := by
  rcases compile_cases ran with ⟨made, same, compiled⟩ |
    ⟨reason, middle, same, unsupported, refused, quiet⟩ | ⟨failure, same, -⟩
  · exact .inr ⟨made, Except.ok.inj same, compiled⟩
  · obtain ⟨other, rfl⟩ := of_manifest_unsupported refused unsupported
    exact .inl ⟨Except.ok.inj same, other, quiet⟩
  · contradiction

/-- What becomes of a document of a stream: one of another kind is kept as it is, and only the
notes on the run may grow; one that has a policy of its own carries it, in every tree that the
document is read as, and the policy can be decoded from there unless one of its texts has halves that stand
like a pair. -/
inductive Settles (compiler : WorkloadCompiler) (world : World) (document : Yaml.Graph)
    (before : Session) : Yaml.Graph × Option PolicyDocument → Session → Prop
  | kept {later : Session}
      (other : WorkloadKind.ofDocument? (ManifestDocument.view document) = none)
      (quiet : later = { before with events := later.events }) :
      Settles compiler world document before (document, none) later
  | annotated {workload : Workload} {policy : PolicyDocument} {encoded : String}
      {annotated : Yaml.Graph} {middle later : Session}
      (supported : WorkloadKind.ofDocument? (ManifestDocument.view document) = some workload.kind)
      (compiled : (compiler.ofManifest (ManifestDocument.view document)).run world before =
        (.ok (workload, policy), middle))
      (written : policy.toBase64 world.machine = .ok encoded)
      (carries : annotated.textAt? (Yaml.Graph.annotationPath workload.kind) = some (.string encoded))
      (visible : ∀ depth, (Yaml.Graph.annotationPath workload.kind).length ≤ depth →
        (annotated.view depth).at? (Yaml.Graph.annotationPath workload.kind) = some (.text encoded))
      (decodes : PolicyDocument.ofBase64 world.machine encoded = .ok policy ↔ policy.Unjoined)
      (quiet : later = { middle with events := later.events }) :
      Settles compiler world document before (annotated, some policy) later

theorem annotated_carries {kind : WorkloadKind} {policy : String} {document annotated : Yaml.Graph}
    (supported : WorkloadKind.ofDocument? (ManifestDocument.view document) = some kind)
    (done : ManifestDocument.annotate kind policy document = .ok annotated) :
    annotated.textAt? (Yaml.Graph.annotationPath kind) = some (.string policy) := by
  obtain ⟨fields, view, -⟩ := WorkloadKind.of_document_eq_some_iff.mp supported
  exact Yaml.Graph.annotate_ok (Yaml.Graph.is_map_of_view view) (Outcome.map_error_ok_iff.mp done)

/-- A document that has a policy was compiled and annotated; any other is returned as it is. -/
theorem stream_document_ok {index : Nat} {document : Yaml.Graph}
    {outcome : Yaml.Graph × Option PolicyDocument}
    (ran : (compiler.streamDocument index document).run world session = (.ok outcome, after)) :
    (outcome = (document, none) ∧
        WorkloadKind.ofDocument? (ManifestDocument.view document) = none ∧
        after = { session with events := after.events }) ∨
      ∃ workload policy annotated middle, outcome = (annotated, some policy) ∧
        (compiler.ofManifest (ManifestDocument.view document)).run world session =
          (.ok (workload, policy), middle) ∧
        ManifestDocument.annotate workload.kind policy.encoded document = .ok annotated ∧
        after = { middle with events := after.events } := by
  by_cases empty : ManifestDocument.view document = .null
  · rw [streamDocument, empty] at ran
    obtain ⟨rfl, rfl⟩ : (document, none) = outcome ∧ session = after := by simpa using ran
    exact .inl ⟨rfl, by rw [empty]; rfl, rfl⟩
  · rw [stream_document_eq index empty] at ran
    obtain ⟨found, middle, compiled, ran⟩ := run_bind_ok_iff.mp ran
    rcases compile_ok compiled with ⟨rfl, other, quiet⟩ | ⟨⟨workload, policy⟩, rfl, made⟩
    · obtain ⟨rfl, rfl⟩ : (document, none) = outcome ∧ middle = after := by simpa using ran
      exact .inl ⟨rfl, other, quiet⟩
    · obtain ⟨annotated, done, ran⟩ := Compile.run_of_except_bind_ok_iff.mp ran
      rw [Compile.run_note_bind] at ran
      obtain ⟨rfl, rfl⟩ : (annotated, some policy) = outcome ∧ _ = after := by simpa using ran
      exact .inr ⟨workload, policy, annotated, middle, rfl, made, done, rfl⟩

theorem stream_document_settles {index : Nat} {document : Yaml.Graph}
    {outcome : Yaml.Graph × Option PolicyDocument}
    (ran : (compiler.streamDocument index document).run world session = (.ok outcome, after)) :
    compiler.Settles world document session outcome after := by
  rcases stream_document_ok ran with ⟨rfl, other, quiet⟩ |
    ⟨workload, policy, annotated, middle, rfl, made, done, quiet⟩
  · exact .kept other quiet
  · obtain ⟨supported, sound⟩ := of_manifest_ok made
    have written := sound.typed.to_base64 world.machine sound.has_numerals
    have carries := annotated_carries supported done
    exact .annotated supported made written carries
      (fun _ deep => Yaml.Graph.at_view_of_text_at carries deep)
      (sound.typed.of_base64_iff written) quiet

theorem stream_ok {documents : List Yaml.Graph} {result : StreamResult Yaml.Graph}
    (ran : (compiler.stream documents).run world session = (.ok result, after)) :
    ∃ outcomes,
      Passes (fun document before outcome later => ∃ index,
        (compiler.streamDocument index document).run world before = (.ok outcome, later))
        session documents outcomes after ∧
      result.documents = outcomes.map (·.1) ∧ result.policies = outcomes.filterMap (·.2) := by
  obtain ⟨outcomes, last, passed, ran⟩ := run_bind_ok_iff.mp ran
  obtain ⟨rfl, rfl⟩ : _ = result ∧ last = after := by simpa using ran
  have passes : Passes (fun document before outcome later => ∃ index,
      (compiler.streamDocument index document).run world before = (.ok outcome, later)) session
      (documents.zipIdx.map Prod.fst) outcomes last :=
    (Compile.run_map_m_passes passed).map fun item _ _ _ ran => ⟨item.2, ran⟩
  rw [List.zipIdx_map_fst] at passes
  exact ⟨outcomes, passes, rfl, rfl⟩

theorem Settles.supported_eq {document : Yaml.Graph} {outcome : Yaml.Graph × Option PolicyDocument}
    (settles : compiler.Settles world document session outcome after) :
    (WorkloadKind.ofDocument? (ManifestDocument.view document)).isSome = outcome.2.isSome := by
  cases settles with
  | kept other => simp [other]
  | annotated supported => simp [supported]

/-- The policies that the supported documents of a stream carry after it. -/
def annotations (documents results : List Yaml.Graph) : List Text :=
  (documents.zip results).filterMap fun (document, result) =>
    (WorkloadKind.ofDocument? (ManifestDocument.view document)).bind fun kind =>
      result.textAt? (Yaml.Graph.annotationPath kind)

section

variable {documents : List Yaml.Graph} {outcomes : List (Yaml.Graph × Option PolicyDocument)}

theorem length_policies (passes : Passes (compiler.Settles world) session documents outcomes after) :
    (outcomes.filterMap (·.2)).length = documents.countP fun document =>
      (WorkloadKind.ofDocument? (ManifestDocument.view document)).isSome := by
  induction passes with
  | nil => rfl
  | @cons _ _ _ document outcome _ _ first _ ih =>
      have same := first.supported_eq
      rw [List.countP_cons, ← ih, same]
      cases found : outcome.2 <;> simp [found]

theorem annotations_written (passes : Passes (compiler.Settles world) session documents outcomes after) :
    ∃ encoded : List String, (outcomes.filterMap (·.2)).mapM (PolicyDocument.toBase64 world.machine) = .ok encoded ∧
      annotations documents (outcomes.map (·.1)) = encoded.map .string := by
  induction passes with
  | nil => exact ⟨[], rfl, rfl⟩
  | cons first _ ih =>
      obtain ⟨encoded, each, rest⟩ := ih
      rw [annotations] at rest ⊢
      cases first with
      | kept other => exact ⟨encoded, each, by simpa [other] using rest⟩
      | @annotated _ policy line _ _ _ supported _ written carries =>
          refine ⟨line :: encoded, ?_, ?_⟩
          · simp only [List.filterMap_cons, List.mapM_cons, written, each]
            rfl
          · simp only [List.map_cons, List.zip_cons_cons, List.filterMap_cons, supported, Option.bind_some,
              carries, rest]

end

theorem read_stream_ok {machine : Machine} {text : String} {documents : List Yaml.Graph}
    (read : readStream machine text = .ok documents) : Yaml.documents machine text = .ok documents := by
  rw [readStream] at read
  split at read
  · rename_i found parsed
    obtain rfl := Except.ok.inj read
    exact parsed
  · contradiction
  · contradiction

theorem stream_text_settles {text : String} {result : StreamResult Yaml.Graph}
    (compiled : (compiler.streamText text).run world session = (.ok result, after)) :
    ∃ documents outcomes,
      Yaml.documents world.machine text = .ok documents ∧
        Passes (compiler.Settles world) session documents outcomes after ∧
        result.documents = outcomes.map (·.1) ∧ result.policies = outcomes.filterMap (·.2) := by
  rw [run_stream_text] at compiled
  obtain ⟨documents, read, ran⟩ := Compile.run_of_except_bind_ok_iff.mp compiled
  obtain ⟨outcomes, streamed, documentsOf, policiesOf⟩ := stream_ok ran
  exact ⟨documents, outcomes, read_stream_ok read,
    streamed.imp fun _ _ _ _ ⟨_, ran⟩ => stream_document_settles ran, documentsOf, policiesOf⟩

/-- Every document of a compiled text settles in its order, with the session that the documents
before it left. There are as many documents as before, as many policies as supported documents,
and the lines of the base64 form are the annotations of these. -/
theorem supported_documents_annotated
    {compiler : WorkloadCompiler}
    {text : String}
    {world : World}
    {session after : Session}
    {result : StreamResult Yaml.Graph}
    (compiled : (compiler.streamText text).run world session = (.ok result, after)) :
    ∃ documents outcomes,
      Yaml.documents world.machine text = .ok documents ∧
        Passes (compiler.Settles world) session documents outcomes after ∧
        result.documents = outcomes.map (·.1) ∧
        result.policies = outcomes.filterMap (·.2) ∧
        result.documents.length = documents.length ∧
        (result.policies.length = documents.countP fun document =>
          (WorkloadKind.ofDocument? (ManifestDocument.view document)).isSome) ∧
        ∃ encoded : List String,
          result.policies.mapM (PolicyDocument.toBase64 world.machine) = .ok encoded ∧
          annotations documents result.documents = encoded.map .string ∧
          ∃ text, result.base64 world.machine = .ok text ∧
            (result.policies ≠ [] → (text.split '\n').toList.map (·.copy) = encoded) := by
  obtain ⟨documents, outcomes, read, passes, documentsOf, policiesOf⟩ := stream_text_settles compiled
  have sameLength : result.documents.length = documents.length := by
    rw [documentsOf, List.length_map]
    exact passes.related.length_eq.symm
  obtain ⟨encoded, written, carried⟩ := annotations_written passes
  rw [← policiesOf] at written
  rw [← documentsOf] at carried
  have joined : result.base64 world.machine = .ok ("\n".intercalate encoded) := by
    rw [StreamResult.base64, written]
    rfl
  refine ⟨documents, outcomes, read, passes, documentsOf, policiesOf, sameLength,
    policiesOf ▸ length_policies passes, encoded, written, carried, _, joined, fun some => ?_⟩
  exact Except.ok.inj ((StreamResult.base64_lines joined some).symm.trans written)

/-- A list before a pod. -/
def mixedText : String := "[a]\n---\nkind: Pod\nspec: \x7b\x7d\n"

theorem mixed_documents_annotated :
    ∃ result after,
      (({} : WorkloadCompiler).streamText mixedText).run World.silent {} = (.ok result, after) ∧
      ∃ documents, Yaml.documents World.silent.machine mixedText = .ok documents ∧
        result.documents.length = 2 ∧ result.policies.length = 1 ∧
        ∃ text, result.base64 World.silent.machine = .ok text ∧
          annotations documents result.documents = ((text.split '\n').toList.map (·.copy)).map .string := by
  have succeeds :
      ((({} : WorkloadCompiler).streamText mixedText).run World.silent {}).1.toBool = true := by
    decide +kernel
  have counts : (Yaml.documents World.silent.machine mixedText).map (fun documents => (documents.length,
      documents.countP fun document =>
        (WorkloadKind.ofDocument? (ManifestDocument.view document)).isSome)) = .ok (2, 1) := by
    decide +kernel
  rcases ran : (({} : WorkloadCompiler).streamText mixedText).run World.silent {} with ⟨r, after⟩
  rw [ran] at succeeds
  cases r with
  | error failure => exact absurd succeeds (by simp [Except.toBool])
  | ok result =>
      obtain ⟨documents, outcomes, read, -, -, -, sameLength, policies, encoded, -, carried, text, joined, lines⟩ :=
        supported_documents_annotated ran
      rw [read] at counts
      obtain ⟨two, one⟩ := Prod.mk.inj (Except.ok.inj counts)
      rw [one] at policies
      have some : result.policies ≠ [] := by
        rintro none
        simp [none] at policies
      exact ⟨result, after, rfl, documents, read, sameLength.trans two, policies, text, joined,
        by rw [carried, lines some]⟩

/-- A pod with a command of one word, in which both halves of a pair are named one after the other. -/
def halvesText : String :=
  "kind: Pod\nspec: \x7bcontainers: [\x7bname: a, image: a, command: [\"\\ud83d\\ude00\"]\x7d]\x7d\n"

/-- Both halves, one after the other. -/
def halves : Text := .ofPoints [.ofCode 0xd83d, .ofCode 0xde00]

theorem halves_compiled :
    ∃ result after policy,
      ((ofSettings {}).streamText halvesText).run World.shell {} = (.ok result, after) ∧
      result.policies = [policy] ∧ ¬ policy.Unjoined := by
  have compiled : (((ofSettings {}).streamText halvesText).run World.shell {}).1.map (fun result =>
      result.policies.map fun policy => policy.containers.map fun entry => entry.2.spec.process.args) =
      .ok [[[.text halves]]] := by
    decide +kernel
  obtain ⟨result, made, words⟩ := Outcome.map_ok_iff.mp compiled
  obtain ⟨after, ran⟩ := Compile.run_of_result made
  obtain ⟨policy, single, words⟩ := List.map_eq_singleton_iff.mp words
  obtain ⟨entry, alone, words⟩ := List.map_eq_singleton_iff.mp words
  have member : entry ∈ policy.containers := by simp [alone]
  refine ⟨result, after, policy, ran, single, fun unjoined => ?_⟩
  have apart : Json.Apart halves.points := PolicyDocument.args_consist unjoined member (by simp [words])
  exact absurd apart (by decide)

/-- The pod carries its policy, but what is decoded from there is another. -/
theorem joined_halves_not_decoded :
    ∃ result after documents policy encoded,
      ((ofSettings {}).streamText halvesText).run World.shell {} = (.ok result, after) ∧
      Yaml.documents World.shell.machine halvesText = .ok documents ∧
      result.policies = [policy] ∧ policy.toBase64 World.shell.machine = .ok encoded ∧
      annotations documents result.documents = [.string encoded] ∧
      PolicyDocument.ofBase64 World.shell.machine encoded ≠ .ok policy := by
  obtain ⟨result, after, policy, ran, single, joined⟩ := halves_compiled
  obtain ⟨documents, outcomes, read, passes, documentsOf, policiesOf⟩ := stream_text_settles ran
  obtain ⟨lines, written, carried⟩ := annotations_written passes
  rw [← policiesOf, single] at written
  rw [← documentsOf] at carried
  obtain ⟨encoded, encodes, form⟩ := Outcome.bind_ok_iff.mp written
  obtain rfl : [encoded] = lines := Except.ok.inj form
  refine ⟨result, after, documents, policy, encoded, ran, read, single, encodes, carried, fun decoded => joined ?_⟩
  obtain ⟨text, -, same⟩ := PolicyDocument.of_base64_to_base64 encodes
  exact PolicyDocument.of_json_unjoined (same ▸ decoded)

end WorkloadCompiler

end LaunchPolicy
