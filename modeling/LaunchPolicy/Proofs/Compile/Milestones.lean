import LaunchPolicy.Proofs.Compile.Assembly
import LaunchPolicy.Proofs.Compile.Independent
import LaunchPolicy.Proofs.Compile.Stream

/-!
The milestones of a compilation, part by part. A container that compiles is one milestone and one that
fails is none; a document begins with a milestone, and ends with one unless the data fail it.
-/

namespace LaunchPolicy

open Compile

namespace WorkloadCompiler

/-- The milestone of a container that has a policy. -/
def containerNote (item : Text × ContainerPolicy) : Event :=
  .containerCompiled item.1 item.2.spec.process.args.length item.2.spec.process.env.length
    item.2.spec.mounts.length

section

variable (compiler : WorkloadCompiler) (workload : Workload) (world : World) (start : Session)

def entryNotes (entry : ContainerEntry) : List Event :=
  onResult (compiler.entryItem workload world start entry) fun item => [containerNote item]

/-- The milestones of the containers of a workload, up to the first that fails. -/
def containerNotes : List Event :=
  (reached (compiler.entryItem workload world start) workload.entries).flatMap
    (compiler.entryNotes workload world start)

def failureNotes : Failure → List Event
  | .policy e => [.documentFailed workload.kind.name workload.title e]
  | .data _ => []

def successNotes (items : List (Text × ContainerPolicy)) : List Event :=
  [.documentCompiled workload.kind.name workload.title (PolicyDocument.ofItems items).size]

/-- How a document ends that was started. -/
def endNotes : List Event :=
  onFailure (compiler.additions workload world start) (failureNotes workload) ++
    onResult (compiler.additions workload world start) (successNotes workload)

def workloadNotes : List Event :=
  .documentStarted workload.kind.name workload.title ::
    (compiler.containerNotes workload world start ++ compiler.endNotes workload world start)

/-- The milestones of a document that is compiled or refused. -/
def manifestNotes (index : Nat) (manifest : Value) : List Event :=
  match Workload.ofDocument manifest compiler.cluster with
  | .ok workload => compiler.workloadNotes workload world start
  | .error e => if e.isUnsupportedKind then [.documentSkipped index e] else []

/-- The milestones of the document at a place of a stream. -/
def documentNotes (index : Nat) (document : Value) : List Event :=
  if document = .null then [] else compiler.manifestNotes world start index document

end

variable {compiler : WorkloadCompiler} {workload : Workload} {world : World} {start : Session}

theorem notes_add_container {entry : ContainerEntry} (resolved : entry.cluster = compiler.cluster)
    (document : PolicyDocument) :
    (compiler.addContainer workload.volumes document entry).Notes compiler.cluster world start
      (compiler.entryNotes workload world start entry) := by
  have steady : (compiler.container entry workload.volumes compiler.withRuntime).Steady
      compiler.cluster world := resolved ▸ compiler.steady_container entry _ _
  have remarks : (compiler.container entry workload.volumes compiler.withRuntime).Remarks :=
    (inherited_remarks entry.cluster).container compiler.toCompiler rfl workload.volumes compiler.withRuntime
  have told : compiler.entryNotes workload world start entry =
      onResult (entry.name.mapError Failure.policy) fun name =>
        onResult (compiler.entryPolicy workload world start entry) fun policy =>
          [containerNote (name, policy)] := by
    rw [entryNotes, entryItem]
    cases entry.name.mapError Failure.policy with
    | error failure => rfl
    | ok name => cases compiler.entryPolicy workload world start entry <;> rfl
  rw [told]
  refine (remarks_of_except _).notes.bind (steady_of_except _) fun name _ => ?_
  refine remarks.notes.bind steady fun policy _ => ?_
  exact notes_note_bind rfl (remarks_pure _).notes

theorem notes_policies (resolved : ∀ entry ∈ workload.entries, entry.cluster = compiler.cluster) :
    (compiler.policies workload).Notes compiler.cluster world start
      (compiler.containerNotes workload world start) := by
  have containers : (workload.entries.foldlM (compiler.addContainer workload.volumes) {}).Notes
      compiler.cluster world start (compiler.containerNotes workload world start) :=
    notes_fold (fun entry member document =>
      ⟨compiler.steady_add_container (resolved entry member) document,
        add_container_result document entry, notes_add_container (resolved entry member) document⟩) {}
  refine containers.finish fun document => ?_
  split
  · exact ((inherited_remarks compiler.cluster).sandbox compiler.toCompiler).bind fun _ => remarks_pure _
  · exact remarks_pure _

theorem guarded_result (resolved : ∀ entry ∈ workload.entries, entry.cluster = compiler.cluster) :
    ((compiler.guarded workload).run world start).1 =
      (compiler.additions workload world start).map PolicyDocument.ofItems := by
  rw [guarded, run_try_catch, ← policies_result resolved]
  rcases (compiler.policies workload).run world start with ⟨r, after⟩
  cases r with
  | ok document => rfl
  | error failure => cases failure <;> rfl

theorem notes_guarded (resolved : ∀ entry ∈ workload.entries, entry.cluster = compiler.cluster) :
    (compiler.guarded workload).Notes compiler.cluster world start
      (compiler.containerNotes workload world start ++
        onFailure (compiler.additions workload world start) (failureNotes workload)) := by
  have result : ((compiler.policies workload).run world start).1 = _ := policies_result resolved
  have told : onFailure (compiler.additions workload world start) (failureNotes workload) =
      onFailure ((compiler.policies workload).run world start).1 (failureNotes workload) := by
    rw [result]
    cases compiler.additions workload world start <;> rfl
  rw [told]
  refine (notes_policies resolved).try_catch (compiler.steady_policies resolved) fun failure _ => ?_
  cases failure with
  | policy e => exact notes_note_bind rfl (remarks_throw _).notes
  | data fault => exact (remarks_throw _).notes

theorem notes_document (resolved : ∀ entry ∈ workload.entries, entry.cluster = compiler.cluster) :
    (compiler.document workload).Notes compiler.cluster world start
      (compiler.workloadNotes workload world start) := by
  have told : onResult (compiler.additions workload world start) (successNotes workload) =
      onResult ((compiler.guarded workload).run world start).1 fun document =>
        [.documentCompiled workload.kind.name workload.title document.size] := by
    rw [guarded_result resolved]
    cases compiler.additions workload world start <;> rfl
  rw [document_eq, workloadNotes, endNotes, ← List.append_assoc, told]
  refine notes_note_bind rfl ((notes_guarded resolved).bind (compiler.steady_guarded resolved) ?_)
  exact fun document _ => notes_note_bind rfl (remarks_pure document).notes

theorem notes_of_manifest {manifest : Value}
    (read : Workload.ofDocument manifest compiler.cluster = .ok workload) :
    (compiler.ofManifest manifest).Notes compiler.cluster world start
      (compiler.workloadNotes workload world start) := by
  have resolved : ∀ entry ∈ workload.entries, entry.cluster = compiler.cluster :=
    fun _ member => Workload.cluster_of_entry read member
  rw [ofManifest, Workload.extract, read]
  change (note _ >>= fun _ => compiler.document workload >>= fun document =>
    pure (workload, document)).Notes compiler.cluster world start _
  exact notes_remark_bind rfl ((notes_document resolved).finish fun document => remarks_pure _)

/-- A document that was read is not refused for its kind afterwards. -/
theorem regular_of_read {manifest : Value} {e : PolicyError}
    (read : Workload.ofDocument manifest compiler.cluster = .ok workload)
    (failed : ((compiler.ofManifest manifest).run world start).1 = .error (.policy e)) :
    e.isUnsupportedKind = false := by
  obtain ⟨after, ran⟩ := run_of_result failed
  rw [Bool.eq_false_iff]
  intro unsupported
  have other := (of_manifest_unsupported ran unsupported).1
  rw [Workload.of_document_kind read] at other
  contradiction

theorem notes_compile (index : Nat) (manifest : Value) :
    (compiler.compile? index manifest).Notes compiler.cluster world start
      (compiler.manifestNotes world start index manifest) := by
  have steady : (some <$> compiler.ofManifest manifest).Steady compiler.cluster world :=
    (compiler.steady_of_manifest manifest).map some
  rw [manifestNotes]
  cases read : Workload.ofDocument manifest compiler.cluster with
  | ok workload =>
      have quiet : onFailure ((some <$> compiler.ofManifest manifest).run world start).1 (fun _ => []) = [] := by
        cases ((some <$> compiler.ofManifest manifest).run world start).1 <;> rfl
      simp only
      rw [← List.append_nil (compiler.workloadNotes workload world start), ← quiet]
      refine ((notes_of_manifest read).map some).try_catch steady fun failure failed => ?_
      cases failure with
      | data fault => exact (remarks_throw _).notes
      | policy e =>
          have regular : e.isUnsupportedKind = false := by
            rw [run_map] at failed
            rcases ran : (compiler.ofManifest manifest).run world start with ⟨r, after⟩
            rw [ran] at failed
            cases r with
            | ok made => contradiction
            | error caught =>
                obtain rfl := Except.error.inj failed
                exact regular_of_read read (congrArg Prod.fst ran)
          simp only [regular]
          exact (remarks_throw _).notes
  | error e =>
      intro session _
      simp only
      rw [compile_unread read]
      split
      · exact session.milestones_append _
      · exact (List.append_nil _).symm

/-! Streams -/

variable {D : Type} [ManifestDocument D]

theorem notes_stream_document (index : Nat) (document : D) :
    (compiler.streamDocument index document).Notes compiler.cluster world start
      (compiler.documentNotes world start index (ManifestDocument.view document)) := by
  rw [documentNotes]
  split
  · rename_i empty
    rw [streamDocument, empty]
    exact (remarks_pure _).notes
  · rename_i filled
    rw [stream_document_eq index filled]
    refine (notes_compile index _).finish fun found => ?_
    cases found with
    | none => exact remarks_pure _
    | some made =>
        exact (remarks_of_except _).bind fun _ => (remarks_note rfl).bind fun _ => remarks_pure _

theorem notes_stream (documents : List D) :
    (compiler.stream documents).Notes compiler.cluster world start
      ((reached (compiler.outcome world start) documents.zipIdx).flatMap fun item =>
        compiler.documentNotes world start item.2 (ManifestDocument.view item.1)) :=
  (notes_map_m fun item _ =>
    ⟨compiler.steady_stream_document item.2 item.1, notes_stream_document item.2 item.1⟩).finish
      fun _ => remarks_pure _

end WorkloadCompiler

end LaunchPolicy
