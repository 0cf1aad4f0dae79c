import LaunchPolicy.Proofs.Compile.Failure
import LaunchPolicy.Proofs.Compile.Milestones

/-!
The milestones of one document. A document that is passed on is one milestone; one that has policies is told
of from its start over each of its containers to its end. Only the document at which a stream stops may lack
its end, and what failed in its containers or in the sandbox is then told last.
-/

namespace LaunchPolicy

open Compile

namespace Event

def isCompiled : Event → Bool
  | .documentCompiled .. => true
  | _ => false

def isFailed : Event → Bool
  | .documentFailed .. => true
  | _ => false

/-- The place of a document that is passed on. -/
def skippedIndex? : Event → Option Nat
  | .documentSkipped index _ => some index
  | _ => none

end Event

namespace WorkloadKind

/-- The kind that a manifest names, if it is a text. -/
def named? (fields : Fields) : Option Text :=
  match (fields.get? (.text "kind")).getD (.text "") with
  | .text name => some name
  | _ => none

theorem of_manifest_eq (fields : Fields) :
    ofManifest fields = match named? fields with
      | some name => ((ofName? name).map Except.ok).getD (.error (unsupported name))
      | none => .error (PolicyError.atField (.ofFields ["kind"]) .kindNotText) := by
  rw [ofManifest, named?]
  cases (fields.get? (.text "kind")).getD (.text "") with
  | scalar s =>
      cases s with
      | text name => cases known : ofName? name <;> simp [known]
      | _ => rfl
  | _ => rfl

/-- The kind of a document for which there are no policies; what is no mapping has the empty kind. -/
def unsupported? (document : Value) : Option Text :=
  match document with
  | .null => none
  | .map fields => (named? fields).filter fun name => (ofName? name).isNone
  | _ => some ""

theorem unsupported_of_fields {fields : Fields} {kind : WorkloadKind} (classified : ofManifest fields = .ok kind) :
    unsupported? (.map fields) = none := by
  rw [of_manifest_eq] at classified
  rw [unsupported?]
  cases named : named? fields with
  | none => rfl
  | some name =>
      rw [named] at classified
      cases known : ofName? name with
      | none => simp [known] at classified
      | some kind => simp [known]

/-- How a document that has no workload is refused: for its kind, which it names, or otherwise. -/
def RefusedFor (document : Value) (e : PolicyError) : Prop :=
  (e.isUnsupportedKind = true ∧ ∃ name, unsupported? document = some name ∧ e = unsupported name) ∨
    e.isUnsupportedKind = false ∧ unsupported? document = none

theorem refused_of_fields {fields : Fields} {e : PolicyError} (refused : ofManifest fields = .error e) :
    RefusedFor (.map fields) e := by
  rw [of_manifest_eq] at refused
  rw [RefusedFor, unsupported?]
  cases named : named? fields with
  | none =>
      rw [named] at refused
      obtain rfl := Except.error.inj refused
      exact .inr ⟨rfl, rfl⟩
  | some name =>
      rw [named] at refused
      cases known : ofName? name with
      | none =>
          obtain rfl : unsupported name = e := by simpa [known] using refused
          exact .inl ⟨rfl, name, by simp [known], rfl⟩
      | some kind => simp [known] at refused

theorem refused_of_document {document : Value} {cluster : Option ClusterSettings} {e : PolicyError}
    (filled : document ≠ .null) (refused : Workload.ofDocument document cluster = .error e) :
    RefusedFor document e := by
  cases document with
  | map fields =>
      cases classified : ofManifest fields with
      | ok kind =>
          exact .inr ⟨Workload.of_fields_regular classified cluster e refused, unsupported_of_fields classified⟩
      | error cause =>
          obtain rfl : cause = e := by
            rw [Workload.ofDocument, Workload.ofFields, classified] at refused
            exact Except.error.inj refused
          exact refused_of_fields classified
  | scalar s =>
      obtain rfl := Except.error.inj refused
      cases s with
      | null => exact absurd rfl filled
      | _ => exact .inl ⟨rfl, "", rfl, rfl⟩
  | _ =>
      obtain rfl := Except.error.inj refused
      exact .inl ⟨rfl, "", rfl, rfl⟩

theorem unsupported_of_read {document : Value} {cluster : Option ClusterSettings} {workload : Workload}
    (read : Workload.ofDocument document cluster = .ok workload) : unsupported? document = none := by
  obtain ⟨fields, spec, rfl, classified, -⟩ := Workload.of_document_ok read
  exact unsupported_of_fields classified

end WorkloadKind

namespace WorkloadCompiler

variable {compiler : WorkloadCompiler} {workload : Workload} {world : World} {start : Session}
  {own others items : List (Text × ContainerPolicy)} {entries : List ContainerEntry} {failure : Failure}
  {manifest : Value}

/-! What a workload is told of -/

theorem reserved_error_iff :
    compiler.reserved.mapM (compiler.reservedItem world) = .error failure ↔
      compiler.withRuntime = true ∧ compiler.sandboxPolicy world = .error failure := by
  rw [reserved]
  cases compiler.withRuntime with
  | false => simp [pure, Except.pure]
  | true =>
      rw [if_pos rfl, List.mapM_cons, reservedItem]
      cases compiler.sandboxPolicy world <;> simp [Except.map, bind, Except.bind, pure, Except.pure]

/-- What has been compiled of a workload when a container of it, or after all of them the sandbox, fails. -/
inductive Failing (compiler : WorkloadCompiler) (world : World) (start : Session) (workload : Workload)
    (own : List (Text × ContainerPolicy)) (failure : Failure) : Prop
  | container {front rest : List ContainerEntry} {entry : ContainerEntry}
      (split : workload.entries = front ++ entry :: rest)
      (added : List.Forall₂ (compiler.Adds workload world start) front own)
      (fails : compiler.entryItem workload world start entry = .error failure)
  | sandbox (added : List.Forall₂ (compiler.Adds workload world start) workload.entries own)
      (withRuntime : compiler.withRuntime = true)
      (fails : compiler.sandboxPolicy world = .error failure)

theorem entry_items_iff :
    entries.mapM (compiler.entryItem workload world start) = .ok own ↔
      List.Forall₂ (compiler.Adds workload world start) entries own := by
  simp only [Outcome.map_m_ok_iff, entry_item_ok_iff]

theorem items_of_added (added : List.Forall₂ (compiler.Adds workload world start) entries own) :
    ∀ entry ∈ entries, ∃ item, compiler.entryItem workload world start entry = .ok item := by
  intro entry member
  obtain ⟨item, -, adds⟩ := Outcome.related_item added member
  exact ⟨item, entry_item_ok_iff.mpr adds⟩

theorem additions_error_iff :
    compiler.additions workload world start = .error failure ↔
      ∃ own, compiler.Failing world start workload own failure := by
  rw [additions, Outcome.bind_error_iff]
  constructor
  · rintro (failed | ⟨own, made, failed⟩)
    · obtain ⟨front, entry, rest, split, before, fails⟩ := Outcome.map_m_error_iff.mp failed
      obtain ⟨own, made⟩ := Outcome.related_of_each before
      exact ⟨own, .container split (entry_items_iff.mp (Outcome.map_m_ok_iff.mpr made)) fails⟩
    · rcases Outcome.bind_error_iff.mp failed with failed | ⟨others, -, failed⟩
      · obtain ⟨withRuntime, fails⟩ := reserved_error_iff.mp failed
        exact ⟨own, .sandbox (entry_items_iff.mp made) withRuntime fails⟩
      · contradiction
  · rintro ⟨own, ⟨split, added, fails⟩ | ⟨added, withRuntime, fails⟩⟩
    · exact .inl (Outcome.map_m_error_iff.mpr ⟨_, _, _, split, items_of_added added, fails⟩)
    · refine .inr ⟨own, entry_items_iff.mpr added, ?_⟩
      exact Outcome.bind_error_iff.mpr (.inl (reserved_error_iff.mpr ⟨withRuntime, fails⟩))

theorem notes_of_added (added : List.Forall₂ (compiler.Adds workload world start) entries own) :
    entries.flatMap (compiler.entryNotes workload world start) = own.map containerNote := by
  induction added with
  | nil => rfl
  | cons adds _ ih =>
      rw [List.flatMap_cons, ih, entryNotes, entry_item_ok_iff.mpr adds]
      rfl

theorem container_notes_all (added : List.Forall₂ (compiler.Adds workload world start) workload.entries own) :
    compiler.containerNotes workload world start = own.map containerNote := by
  rw [containerNotes, reached_all (entry_items_iff.mpr added), notes_of_added added]

theorem container_notes_failing (failing : compiler.Failing world start workload own failure) :
    compiler.containerNotes workload world start = own.map containerNote := by
  cases failing with
  | sandbox added => exact container_notes_all added
  | container split added fails =>
      rw [containerNotes, split, reached_failing (items_of_added added) fails, List.flatMap_append,
        notes_of_added added, List.flatMap_singleton, entryNotes, fails]
      exact List.append_nil _

/-! What a document comes to -/

theorem of_manifest_result (read : Workload.ofDocument manifest compiler.cluster = .ok workload) :
    ((compiler.ofManifest manifest).run world start).1 =
      (compiler.additions workload world start).map fun items => (workload, PolicyDocument.ofItems items) := by
  have resolved : ∀ entry ∈ workload.entries, entry.cluster = compiler.cluster :=
    fun _ member => Workload.cluster_of_entry read member
  let extracted : Event := .extracted workload.kind.name workload.title workload.containers.length
    workload.initContainers.length workload.volumes.length
  have steady : (compiler.document workload).Steady compiler.cluster world := compiler.steady_document resolved
  have result := (steady.decides start { start with events := start.events ++ [extracted] }
    (World.answers_congr compiler.cluster rfl rfl)).trans (document_result resolved)
  rw [ofManifest, Workload.extract, read]
  change ((note extracted >>= fun _ => compiler.document workload >>= fun document =>
    pure (workload, document)).run world start).1 = _
  rw [run_note_bind, run_bind]
  rcases ran : (compiler.document workload).run world { start with events := start.events ++ [extracted] } with
    ⟨r, after⟩
  rw [ran] at result
  obtain rfl := result
  cases compiler.additions workload world start <;> rfl

theorem compile_read (read : Workload.ofDocument manifest compiler.cluster = .ok workload) (index : Nat) :
    ((compiler.compile? index manifest).run world start).1 =
      (compiler.additions workload world start).map fun items =>
        some (workload, PolicyDocument.ofItems items) := by
  have result : ((compiler.ofManifest manifest).run world start).1 = _ := of_manifest_result read
  rw [compile?, run_try_catch, run_map]
  rcases ran : (compiler.ofManifest manifest).run world start with ⟨r, after⟩
  rw [ran] at result
  cases made : compiler.additions workload world start with
  | ok items =>
      rw [made] at result
      obtain rfl := result
      rfl
  | error failure =>
      rw [made] at result
      obtain rfl : r = .error failure := result
      cases failure with
      | data fault => rfl
      | policy e =>
          have regular : e.isUnsupportedKind = false := regular_of_read read (congrArg Prod.fst ran)
          simp only [regular]
          rfl

theorem additions_sound {manifest : Value} (read : Workload.ofDocument manifest compiler.cluster = .ok workload)
    (made : compiler.additions workload world start = .ok items) : (PolicyDocument.ofItems items).Sound := by
  have result : ((compiler.compile? 0 manifest).run world start).1 = _ := compile_read read 0
  rw [made] at result
  obtain ⟨after, ran⟩ := run_of_result result
  exact compile_yields compiler.policies_sound 0 manifest world start _ after ran _ rfl

variable {D : Type} [ManifestDocument D] {document : D} {index : Nat}

theorem outcome_empty (empty : ManifestDocument.view document = .null) :
    compiler.outcome world start (document, index) = .ok (document, none) := by
  rw [outcome, streamDocument, empty]
  rfl

theorem outcome_unread {e : PolicyError} (filled : ManifestDocument.view document ≠ .null)
    (refused : Workload.ofDocument (ManifestDocument.view document) compiler.cluster = .error e) :
    compiler.outcome world start (document, index) =
      if e.isUnsupportedKind then .ok (document, none) else .error (.policy e) := by
  rw [outcome, stream_document_eq index filled, run_bind, compile_unread refused]
  cases e.isUnsupportedKind <;> rfl

theorem outcome_read
    (read : Workload.ofDocument (ManifestDocument.view document) compiler.cluster = .ok workload) :
    compiler.outcome world start (document, index) =
      compiler.additions workload world start >>= fun items =>
        (ManifestDocument.annotate workload.kind (PolicyDocument.ofItems items).encoded document).map
          fun annotated => (annotated, some (PolicyDocument.ofItems items)) := by
  have filled : ManifestDocument.view document ≠ .null := by
    intro empty
    rw [empty] at read
    contradiction
  have result : ((compiler.compile? index (ManifestDocument.view document)).run world start).1 = _ :=
    compile_read read index
  rw [outcome, stream_document_eq index filled, run_bind]
  rcases ran : (compiler.compile? index (ManifestDocument.view document)).run world start with ⟨r, after⟩
  rw [ran] at result
  obtain rfl := result
  cases compiler.additions workload world start with
  | error failure => rfl
  | ok items =>
      change Prod.fst (Compile.run (_ >>= _) world after) = Except.map _ _
      rw [run_bind, run_of_except]
      cases ManifestDocument.annotate workload.kind (PolicyDocument.ofItems items).encoded document <;> rfl

/-- The milestones from the start of a workload over the containers that have policies to its end. -/
def block (workload : Workload) (own : List (Text × ContainerPolicy)) (last : Event) : List Event :=
  .documentStarted workload.kind.name workload.title :: (own.map containerNote ++ [last])

/-- What is told of a document, at its place, that does not stop the stream, and the policies that it has. -/
inductive Block (compiler : WorkloadCompiler) (world : World) (start : Session) :
    D × Nat → List Event → Option PolicyDocument → Prop
  | empty {document : D} {index : Nat} (empty : ManifestDocument.view document = .null) :
      Block compiler world start (document, index) [] none
  | skipped {document : D} {index : Nat} {name : Text}
      (unsupported : WorkloadKind.unsupported? (ManifestDocument.view document) = some name) :
      Block compiler world start (document, index)
        [.documentSkipped index (WorkloadKind.unsupported name)] none
  | compiled {document : D} {index : Nat} {workload : Workload}
      {own others : List (Text × ContainerPolicy)} {policy : PolicyDocument}
      (read : Workload.ofDocument (ManifestDocument.view document) compiler.cluster = .ok workload)
      (added : List.Forall₂ (compiler.Adds workload world start) workload.entries own)
      (reserved : compiler.Reserves world others)
      (assembled : PolicyDocument.ofItems (own ++ others) = policy) :
      Block compiler world start (document, index)
        (block workload own (.documentCompiled workload.kind.name workload.title policy.size)) (some policy)

/-- What is told of the document at which the stream stops for an error: nothing if it cannot be read, its
failure if its containers or the sandbox have failed, and all of it if it cannot take the annotation. -/
inductive Break (compiler : WorkloadCompiler) (world : World) (start : Session) :
    D × Nat → List Event → PolicyError → Prop
  | unread {document : D} {index : Nat} {e : PolicyError}
      (supported : WorkloadKind.unsupported? (ManifestDocument.view document) = none)
      (refused : Workload.ofDocument (ManifestDocument.view document) compiler.cluster = .error e) :
      Break compiler world start (document, index) [] e
  | failed {document : D} {index : Nat} {workload : Workload} {own : List (Text × ContainerPolicy)}
      {e : PolicyError}
      (read : Workload.ofDocument (ManifestDocument.view document) compiler.cluster = .ok workload)
      (failing : compiler.Failing world start workload own (.policy e)) :
      Break compiler world start (document, index)
        (block workload own (.documentFailed workload.kind.name workload.title e)) e
  | unannotated {document : D} {index : Nat} {kind : WorkloadKind} {told : List Event}
      {policy : PolicyDocument} {encoded : String} {e : PolicyError}
      (compiled : compiler.Block world start (document, index) told (some policy))
      (named : WorkloadKind.ofDocument? (ManifestDocument.view document) = some kind)
      (written : policy.toBase64 world.machine = .ok encoded)
      (refused : ManifestDocument.annotate kind encoded document = .error (.policy e)) :
      Break compiler world start (document, index) told e

section Document

variable {document : D} {index : Nat} {policy? : Option PolicyDocument} {told : List Event} {e : PolicyError}

theorem workload_notes_ok (made : compiler.additions workload world start = .ok items) :
    ∃ own others, List.Forall₂ (compiler.Adds workload world start) workload.entries own ∧
      compiler.Reserves world others ∧ own ++ others = items ∧
      compiler.workloadNotes workload world start = block workload own
        (.documentCompiled workload.kind.name workload.title (PolicyDocument.ofItems items).size) := by
  obtain ⟨own, others, added, reserved, joined⟩ := additions_ok_iff.mp made
  refine ⟨own, others, added, reserved, joined, ?_⟩
  rw [workloadNotes, endNotes, container_notes_all added, made]
  rfl

theorem workload_notes_failing (failing : compiler.Failing world start workload own (.policy e)) :
    compiler.workloadNotes workload world start =
      block workload own (.documentFailed workload.kind.name workload.title e) := by
  rw [workloadNotes, endNotes, container_notes_failing failing, additions_error_iff.mpr ⟨own, failing⟩]
  rfl

theorem document_notes_read (filled : ManifestDocument.view document ≠ .null)
    (read : Workload.ofDocument (ManifestDocument.view document) compiler.cluster = .ok workload) :
    compiler.documentNotes world start index (ManifestDocument.view document) =
      compiler.workloadNotes workload world start := by
  rw [documentNotes, if_neg filled, manifestNotes, read]

theorem document_notes_unread (filled : ManifestDocument.view document ≠ .null)
    (refused : Workload.ofDocument (ManifestDocument.view document) compiler.cluster = .error e) :
    compiler.documentNotes world start index (ManifestDocument.view document) =
      if e.isUnsupportedKind then [.documentSkipped index e] else [] := by
  rw [documentNotes, if_neg filled, manifestNotes, refused]

theorem block_of_outcome {made : D × Option PolicyDocument}
    (done : compiler.outcome world start (document, index) = .ok made) :
    compiler.Block world start (document, index)
      (compiler.documentNotes world start index (ManifestDocument.view document)) made.2 := by
  by_cases filled : ManifestDocument.view document = .null
  · rw [outcome_empty filled] at done
    obtain rfl := Except.ok.inj done
    rw [documentNotes, if_pos filled]
    exact .empty filled
  · cases read : Workload.ofDocument (ManifestDocument.view document) compiler.cluster with
    | error e =>
        rw [outcome_unread filled read] at done
        rw [document_notes_unread filled read]
        rcases WorkloadKind.refused_of_document filled read with ⟨skip, name, unsupported, rfl⟩ | ⟨keep, -⟩
        · rw [if_pos skip] at done
          obtain rfl := Except.ok.inj done
          rw [if_pos skip]
          exact .skipped unsupported
        · rw [keep] at done
          contradiction
    | ok workload =>
        rw [outcome_read read] at done
        obtain ⟨items, added, done⟩ := Outcome.bind_ok_iff.mp done
        obtain ⟨annotated, -, rfl⟩ := Outcome.map_ok_iff.mp done
        obtain ⟨own, others, ownAdded, reserved, rfl, told⟩ := workload_notes_ok added
        rw [document_notes_read filled read, told]
        exact .compiled read ownAdded reserved rfl

theorem break_of_outcome (failed : compiler.outcome world start (document, index) = .error (.policy e)) :
    compiler.Break world start (document, index)
      (compiler.documentNotes world start index (ManifestDocument.view document)) e := by
  have filled : ManifestDocument.view document ≠ .null := by
    intro empty
    rw [outcome_empty empty] at failed
    contradiction
  cases read : Workload.ofDocument (ManifestDocument.view document) compiler.cluster with
  | error cause =>
      rw [outcome_unread filled read] at failed
      rw [document_notes_unread filled read]
      rcases WorkloadKind.refused_of_document filled read with ⟨skip, -⟩ | ⟨keep, supported⟩
      · rw [if_pos skip] at failed
        contradiction
      · rw [keep] at failed ⊢
        obtain rfl : cause = e := by simpa using failed
        exact .unread supported read
  | ok workload =>
      rw [outcome_read read] at failed
      rw [document_notes_read filled read]
      rcases Outcome.bind_error_iff.mp failed with failed | ⟨items, added, refused⟩
      · obtain ⟨own, failing⟩ := additions_error_iff.mp failed
        rw [workload_notes_failing failing]
        exact .failed read failing
      · -- all has been told of the policies by the time the annotation is refused
        obtain ⟨own, others, ownAdded, reserved, rfl, told⟩ := workload_notes_ok added
        rw [told]
        have sound := additions_sound read added
        exact .unannotated (.compiled read ownAdded reserved rfl) (Workload.of_document_kind read)
          (sound.typed.to_base64 world.machine sound.has_numerals)
          (Outcome.map_fails_iff.mp refused)

/-! What is not told of a document -/

theorem skipped_of_block (last : Event) :
    (block workload own last).filterMap Event.skippedIndex? = last.skippedIndex?.toList := by
  have quiet : (own.map containerNote).filterMap Event.skippedIndex? = [] := by simp [containerNote, Event.skippedIndex?]
  rw [block, List.filterMap_cons_none rfl, List.filterMap_append, quiet, List.nil_append]
  cases last <;> rfl

theorem compiled_of_block (last : Event) :
    (block workload own last).countP Event.isCompiled = if last.isCompiled then 1 else 0 := by
  have quiet : (own.map containerNote).countP Event.isCompiled = 0 := by
    simp [List.countP_eq_zero, containerNote, Event.isCompiled]
  rw [block, List.countP_cons_of_neg (by simp [Event.isCompiled]), List.countP_append, quiet, Nat.zero_add,
    List.countP_singleton]

theorem mem_block {last event : Event} (member : event ∈ block workload own last) :
    event = last ∨ event.isFailed = false ∧ event.isCompiled = false := by
  simp only [block, List.mem_cons, List.mem_append, List.mem_map, List.not_mem_nil, or_false] at member
  rcases member with rfl | ⟨item, -, rfl⟩ | rfl
  · exact .inr ⟨rfl, rfl⟩
  · exact .inr ⟨rfl, rfl⟩
  · exact .inl rfl

namespace Block

variable {item : D × Nat} (told_ : compiler.Block world start item told policy?)
include told_

theorem skipped_indices :
    told.filterMap Event.skippedIndex? =
      if (WorkloadKind.unsupported? (ManifestDocument.view item.1)).isSome then [item.2] else [] := by
  cases told_ with
  | empty empty => rw [empty]; rfl
  | skipped unsupported => rw [unsupported]; rfl
  | compiled read => rw [skipped_of_block, WorkloadKind.unsupported_of_read read]; rfl

theorem compiled_count : told.countP Event.isCompiled = policy?.toList.length := by
  cases told_ with
  | empty => rfl
  | skipped => rfl
  | compiled => exact compiled_of_block _

theorem not_failed : ∀ event ∈ told, event.isFailed = false := by
  cases told_ with
  | empty => simp
  | skipped => simp [Event.isFailed]
  | compiled =>
      intro event member
      rcases mem_block member with rfl | ⟨quiet, -⟩
      · rfl
      · exact quiet

/-- The number of containers that is told of a document is the number of its policies. -/
theorem container_count {event : Event} (member : event ∈ told) (compiled : event.isCompiled = true) :
    ∃ policy, policy? = some policy ∧ ∀ wording time,
      (event.record wording time).fields.get? (.text "container_count") = some (.int policy.size) := by
  cases told_ with
  | empty => simp at member
  | skipped =>
      obtain rfl := List.mem_singleton.mp member
      contradiction
  | compiled =>
      rcases mem_block member with rfl | ⟨-, quiet⟩
      · exact ⟨_, rfl, fun _ _ => rfl⟩
      · rw [quiet] at compiled
        contradiction

end Block

/-- An error comes from a container of a document, or from the sandbox beside them. -/
def ContainersFail (compiler : WorkloadCompiler) (world : World) (start : Session) (document : D)
    (e : PolicyError) : Prop :=
  ∃ workload own, Workload.ofDocument (ManifestDocument.view document) compiler.cluster = .ok workload ∧
    compiler.Failing world start workload own (.policy e)

theorem not_failing_of_added {failure : Failure}
    (added : List.Forall₂ (compiler.Adds workload world start) workload.entries own)
    (reserved : compiler.Reserves world others) :
    ¬∃ failed, compiler.Failing world start workload failed failure := by
  rw [← additions_error_iff, additions_ok_iff.mpr ⟨own, others, added, reserved, rfl⟩]
  simp

namespace Break

variable {item : D × Nat} (told_ : compiler.Break world start item told e)
include told_

theorem skipped_indices : told.filterMap Event.skippedIndex? = [] := by
  cases told_ with
  | unread => rfl
  | failed => exact skipped_of_block _
  | unannotated compiled named =>
      obtain ⟨fields, view, classified⟩ := WorkloadKind.of_document_eq_some_iff.mp named
      rw [compiled.skipped_indices, view, WorkloadKind.unsupported_of_fields classified]
      rfl

/-- A failure is told exactly when the error comes from a container or the sandbox. -/
theorem failed_iff :
    (∃ event ∈ told, event.isFailed = true) ↔ compiler.ContainersFail world start item.1 e := by
  cases told_ with
  | unread _ refused => simp [ContainersFail, refused]
  | @failed _ _ workload own _ read failing =>
      refine ⟨fun _ => ⟨workload, own, read, failing⟩, fun _ => ?_⟩
      exact ⟨.documentFailed workload.kind.name workload.title e, by simp [block], rfl⟩
  | unannotated compiled =>
      have quiet := compiled.not_failed
      constructor
      · rintro ⟨event, member, failed⟩
        rw [quiet event member] at failed
        contradiction
      · rintro ⟨workload, own, read, failing⟩
        cases compiled with
        | compiled same added reserved =>
            -- a workload has policies or a failure, not both
            obtain rfl := Except.ok.inj (read.symm.trans same)
            exact absurd ⟨own, failing⟩ (not_failing_of_added added reserved)

/-- A failure is told once and last, with the text of the error. -/
theorem failed_last {event : Event} (member : event ∈ told) (failed : event.isFailed = true) :
    ∃ before, told = before ++ [event] ∧ (∀ other ∈ before, other.isFailed = false) ∧
      ∀ wording time, (event.record wording time).fields.get? (.text "error") =
        some (.text (e.message wording)) := by
  cases told_ with
  | unread => simp at member
  | @failed _ _ workload own _ read failing =>
      obtain rfl := (mem_block member).resolve_right fun ⟨quiet, _⟩ => by simp [quiet] at failed
      refine ⟨.documentStarted workload.kind.name workload.title :: own.map containerNote, rfl, ?_,
        fun _ _ => rfl⟩
      refine List.forall_mem_cons.mpr ⟨rfl, List.forall_mem_map.mpr fun _ _ => rfl⟩
  | unannotated compiled => exact absurd failed (by simp [compiled.not_failed event member])

theorem container_count {event : Event} (member : event ∈ told) (compiled : event.isCompiled = true) :
    ∃ policy, compiler.Block world start item told (some policy) ∧ ∀ wording time,
      (event.record wording time).fields.get? (.text "container_count") = some (.int policy.size) := by
  cases told_ with
  | unread => simp at member
  | failed =>
      rcases mem_block member with rfl | ⟨-, quiet⟩
      · contradiction
      · rw [quiet] at compiled
        contradiction
  | @unannotated _ _ _ _ policy _ _ whole =>
      obtain ⟨same, found, count⟩ := whole.container_count member compiled
      obtain rfl := Option.some.inj found
      exact ⟨policy, whole, count⟩

end Break

end Document

end WorkloadCompiler

end LaunchPolicy
