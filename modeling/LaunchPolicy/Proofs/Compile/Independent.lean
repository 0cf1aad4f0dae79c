import LaunchPolicy.Proofs.Compile.Steady
import LaunchPolicy.Proofs.Compile.Typed

/-!
Documents of a stream are compiled on their own. One compiler goes through the whole stream and keeps
the config maps that it has read, and yet each document comes to what it comes to in a stream of its
own with a new compiler.
-/

namespace LaunchPolicy

open Compile

namespace StreamResult

variable {D : Type}

def collect (outcomes : List (D × Option PolicyDocument)) : StreamResult D where
  policies := outcomes.filterMap (·.2)
  documents := outcomes.map (·.1)

def concat (parts : List (StreamResult D)) : StreamResult D where
  policies := parts.flatMap (·.policies)
  documents := parts.flatMap (·.documents)

theorem concat_single (outcomes : List (D × Option PolicyDocument)) :
    concat (outcomes.map fun outcome => collect [outcome]) = collect outcomes := by
  induction outcomes with
  | nil => rfl
  | cons outcome outcomes ih =>
      rw [concat, collect, StreamResult.mk.injEq] at ih ⊢
      obtain ⟨policies, documents⟩ := ih
      rw [List.map_cons, List.flatMap_cons, List.flatMap_cons, policies, documents]
      rcases outcome with ⟨document, policy⟩
      cases policy <;> exact ⟨rfl, rfl⟩

end StreamResult

namespace WorkloadCompiler

variable {D : Type} [ManifestDocument D] {compiler : WorkloadCompiler} {world : World}
  {session : Session}

theorem steady_stream_document (compiler : WorkloadCompiler) (index : Nat) (document : D) :
    (compiler.streamDocument index document).Steady compiler.cluster world := by
  by_cases empty : ManifestDocument.view document = .null
  · rw [streamDocument, empty]
    exact steady_pure _
  · rw [stream_document_eq index empty]
    apply (steady_compile index _).bind
    intro found
    cases found with
    | none => exact steady_pure _
    | some made =>
        exact (steady_of_except _).bind fun _ => (steady_note _).bind fun _ => steady_pure _

/-- The place of a document in the stream shows in notes only. -/
theorem stream_document_result (index other : Nat) (document : D) :
    ((compiler.streamDocument other document).run world session).1 =
      ((compiler.streamDocument index document).run world session).1 := by
  by_cases empty : ManifestDocument.view document = .null
  · rw [streamDocument, streamDocument, empty]
  · rw [stream_document_eq other empty, stream_document_eq index empty, run_bind, run_bind]
    rcases here : (compiler.compile? index (ManifestDocument.view document)).run world session with
      ⟨r, middle⟩
    obtain ⟨otherMiddle, there⟩ :=
      run_of_result ((compile_result index other _).trans (congrArg Prod.fst here))
    rw [there]
    rcases r with failure | found
    · rfl
    · rcases found with _ | ⟨workload, policy⟩
      · rfl
      · simp only [run_bind, run_of_except, run_note]
        cases ManifestDocument.annotate workload.kind policy.encoded document <;> rfl

/-- What a document comes to in a stream of its own. -/
def alone (compiler : WorkloadCompiler) (world : World) (document : D) :
    Except Failure (StreamResult D) := ((compiler.stream [document]).run world {}).1

/-- What a document at a place of a stream comes to by itself. -/
def outcome (compiler : WorkloadCompiler) (world : World) (start : Session) (item : D × Nat) :
    Except Failure (D × Option PolicyDocument) :=
  ((compiler.streamDocument item.2 item.1).run world start).1

theorem stream_outcomes (compiler : WorkloadCompiler) (world : World) (start : Session) (documents : List D) :
    ((compiler.stream documents).run world start).1 =
      (documents.zipIdx.mapM (compiler.outcome world start)).map StreamResult.collect := by
  have steady : ∀ item ∈ documents.zipIdx,
      (compiler.streamDocument item.2 item.1).Steady compiler.cluster world :=
    fun item _ => compiler.steady_stream_document item.2 item.1
  have alone : ((documents.zipIdx.mapM fun item : D × Nat =>
      compiler.streamDocument item.2 item.1).run world start).1 =
      documents.zipIdx.mapM (compiler.outcome world start) := run_map_m_alone steady rfl
  rw [← alone, stream, run_bind]
  rcases (documents.zipIdx.mapM fun item : D × Nat =>
    compiler.streamDocument item.2 item.1).run world start with ⟨r, after⟩
  cases r <;> rfl

theorem stream_result (compiler : WorkloadCompiler) (world : World) (documents : List D) :
    ((compiler.stream documents).run world {}).1 =
      (documents.mapM fun document =>
        ((compiler.streamDocument 0 document).run world {}).1).map StreamResult.collect := by
  have places : compiler.outcome world {} =
      (fun document : D => ((compiler.streamDocument 0 document).run world {}).1) ∘ Prod.fst := by
    funext item
    exact stream_document_result 0 item.2 item.1
  rw [stream_outcomes, places, ← List.mapM_map, List.zipIdx_map_fst]

/-- A stream comes to what its documents come to, put together in their order. -/
theorem stream_eq_alone (compiler : WorkloadCompiler) (world : World) (documents : List D) :
    ((compiler.stream documents).run world {}).1 =
      (documents.mapM (compiler.alone world)).map StreamResult.concat := by
  have single : compiler.alone world = fun document : D =>
      ((compiler.streamDocument 0 document).run world {}).1.map fun outcome =>
        StreamResult.collect [outcome] := by
    funext document
    rw [alone, stream_result, List.mapM_cons, List.mapM_nil]
    cases ((compiler.streamDocument 0 document).run world {}).1 <;> rfl
  rw [stream_result, single, Outcome.map_m_map]
  cases documents.mapM fun document => ((compiler.streamDocument 0 document).run world {}).1 with
  | error failure => rfl
  | ok outcomes => exact congrArg Except.ok (StreamResult.concat_single outcomes).symm

theorem stream_ok_iff {documents : List D} {result : StreamResult D} :
    ((compiler.stream documents).run world {}).1 = .ok result ↔
      ∃ parts, List.Forall₂ (fun document part => compiler.alone world document = .ok part)
        documents parts ∧ StreamResult.concat parts = result := by
  rw [stream_eq_alone, Outcome.map_ok_iff]
  simp only [Outcome.map_m_ok_iff]

theorem stream_error_iff {documents : List D} {failure : Failure} :
    ((compiler.stream documents).run world {}).1 = .error failure ↔
      ∃ front document rest, documents = front ++ document :: rest ∧
        (∀ other ∈ front, ∃ part, compiler.alone world other = .ok part) ∧
        compiler.alone world document = .error failure := by
  rw [stream_eq_alone, Outcome.map_fails_iff, Outcome.map_m_error_iff]

/-- Every document of a stream is compiled as if it were the only one: the stream has a result just
when each document has one by itself, and then it is theirs in their order; and it fails with the
failure that the first failing document has by itself. -/
theorem documents_independent
    (compiler : WorkloadCompiler)
    (world : World)
    (documents : List D) :
    (∀ result, ((compiler.stream documents).run world {}).1 = .ok result ↔
      ∃ parts, List.Forall₂ (fun document part => compiler.alone world document = .ok part)
          documents parts ∧
        result.policies = parts.flatMap (·.policies) ∧
        result.documents = parts.flatMap (·.documents)) ∧
    (∀ failure, ((compiler.stream documents).run world {}).1 = .error failure ↔
      ∃ front document rest, documents = front ++ document :: rest ∧
        (∀ other ∈ front, ∃ part, compiler.alone world other = .ok part) ∧
        compiler.alone world document = .error failure) ∧
    ∀ front document rest result, documents = front ++ document :: rest →
      ((compiler.stream documents).run world {}).1 = .ok result →
      ∃ before own after,
        ((compiler.stream front).run world {}).1 = .ok before ∧
        compiler.alone world document = .ok own ∧
        ((compiler.stream rest).run world {}).1 = .ok after ∧
        result.policies = before.policies ++ own.policies ++ after.policies ∧
        result.documents = before.documents ++ own.documents ++ after.documents := by
  refine ⟨fun result => ?_, fun failure => stream_error_iff, ?_⟩
  · rw [stream_ok_iff]
    refine exists_congr fun parts => and_congr_right fun _ => ?_
    cases result
    simp [StreamResult.concat, eq_comm]
  · rintro front document rest result rfl compiled
    obtain ⟨parts, each, rfl⟩ := stream_ok_iff.mp compiled
    obtain ⟨first, others, rfl, before, each⟩ := Outcome.related_append each
    obtain ⟨own, last, here, after, rfl⟩ := List.forall₂_cons_left_iff.mp each
    exact ⟨_, own, _, stream_ok_iff.mpr ⟨first, before, rfl⟩, here,
      stream_ok_iff.mpr ⟨last, after, rfl⟩, by simp [StreamResult.concat],
      by simp [StreamResult.concat]⟩

end WorkloadCompiler

end LaunchPolicy
