import LaunchPolicy.Proofs.Compile.Blocks

/-!
The story that the milestones of a stream tell: its documents one after another, each with its block, up to
the one at which it stops.
-/

namespace LaunchPolicy

open Compile

namespace WorkloadCompiler

variable {D : Type} [ManifestDocument D] {compiler : WorkloadCompiler} {world : World} {start : Session}

/-- Each document, at its place, has its block. -/
def Blocks (compiler : WorkloadCompiler) (world : World) (start : Session) (items : List (D × Nat))
    (blocks : List (List Event × Option PolicyDocument)) : Prop :=
  List.Forall₂ (fun item block => compiler.Block world start item block.1 block.2) items blocks

/-- What is told of the documents that are handled, block by block, and of the one at which the stream
stops if it has an error. -/
inductive Story (compiler : WorkloadCompiler) (world : World) (start : Session) (documents : List D) :
    Except PolicyError (StreamResult D) → List D → List (List Event × Option PolicyDocument) → List Event → Prop
  | complete {result : StreamResult D} {blocks : List (List Event × Option PolicyDocument)}
      (each : compiler.Blocks world start documents.zipIdx blocks)
      (policies : result.policies = blocks.filterMap (·.2)) :
      Story compiler world start documents (.ok result) documents blocks []
  | broken {handled rest : List D} {document : D} {blocks : List (List Event × Option PolicyDocument)}
      {last : List Event} {e : PolicyError}
      (split : documents = handled ++ document :: rest)
      (each : compiler.Blocks world start handled.zipIdx blocks)
      (breaks : compiler.Break world start (document, handled.length) last e) :
      Story compiler world start documents (.error e) handled blocks last

section Stream

variable {documents handled : List D} {blocks : List (List Event × Option PolicyDocument)}
  {last : List Event} {r : Except PolicyError (StreamResult D)} {after : Session}

theorem blocks_of_outcomes {items : List (D × Nat)} {outcomes : List (D × Option PolicyDocument)}
    (done : List.Forall₂ (fun item outcome => compiler.outcome world start item = .ok outcome) items outcomes) :
    ∃ blocks : List (List Event × Option PolicyDocument),
      compiler.Blocks world start items blocks ∧
      (items.flatMap fun item =>
        compiler.documentNotes world start item.2 (ManifestDocument.view item.1)) = blocks.flatMap (·.1) ∧
      outcomes.filterMap (·.2) = blocks.filterMap (·.2) := by
  induction done with
  | nil => exact ⟨[], .nil, rfl, rfl⟩
  | @cons item outcome _ _ first _ ih =>
      obtain ⟨blocks, each, told, policies⟩ := ih
      let here := compiler.documentNotes world start item.2 (ManifestDocument.view item.1)
      refine ⟨(here, outcome.2) :: blocks, .cons (block_of_outcome first) each, ?_, ?_⟩
      · rw [List.flatMap_cons, List.flatMap_cons, told]
      · rw [List.filterMap_cons, List.filterMap_cons, policies]

theorem story_of_stream (ran : (compiler.stream documents).run world start = (r.mapError .policy, after)) :
    ∃ handled blocks last, compiler.Story world start documents r handled blocks last ∧
      after.milestones = start.milestones ++ (blocks.flatMap (·.1) ++ last) := by
  have notes : (compiler.stream documents).Notes compiler.cluster world start _ := notes_stream documents
  have told := notes start rfl
  have result := compiler.stream_outcomes world start documents
  rw [ran] at told result
  cases r with
  | ok made =>
      obtain ⟨outcomes, all, collected⟩ := Outcome.map_ok_iff.mp result.symm
      obtain ⟨blocks, each, same, policies⟩ := blocks_of_outcomes (Outcome.map_m_ok all)
      rw [reached_all all, same] at told
      refine ⟨documents, blocks, [], .complete each ?_, by rw [told, List.append_nil]⟩
      rw [← policies, ← collected]
      rfl
  | error e =>
      obtain ⟨front, item, others, split, before, fails⟩ :=
        Outcome.map_m_error_iff.mp (Outcome.map_fails_iff.mp result.symm)
      rw [split, reached_failing before fails, List.flatMap_append, List.flatMap_singleton] at told
      -- the places of the items in front are those of their own list
      obtain ⟨handled, tail, rfl, rfl, places⟩ := List.zipIdx_eq_append_iff.mp split
      obtain ⟨document, rest, rfl, rfl, -⟩ := List.zipIdx_eq_cons_iff.mp places.symm
      obtain ⟨outcomes, done⟩ := Outcome.related_of_each before
      obtain ⟨blocks, each, same, -⟩ := blocks_of_outcomes done
      rw [same] at told
      rw [Nat.zero_add] at told fails
      exact ⟨handled, blocks, _, .broken rfl each (break_of_outcome fails), told⟩

theorem skipped_of_blocks {items : List (D × Nat)} (each : compiler.Blocks world start items blocks) :
    (blocks.flatMap (·.1)).filterMap Event.skippedIndex? =
      (items.filter fun item =>
        (WorkloadKind.unsupported? (ManifestDocument.view item.1)).isSome).map (·.2) := by
  induction each with
  | nil => rfl
  | cons first _ ih =>
      rw [List.flatMap_cons, List.filterMap_append, first.skipped_indices, ih, List.filter_cons]
      split <;> rfl

theorem compiled_of_blocks {items : List (D × Nat)} (each : compiler.Blocks world start items blocks) :
    (blocks.flatMap (·.1)).countP Event.isCompiled = (blocks.filterMap (·.2)).length := by
  induction each with
  | nil => rfl
  | @cons _ block _ _ first _ ih =>
      rw [List.flatMap_cons, List.countP_append, first.compiled_count, ih, List.filterMap_cons]
      cases block.2 with
      | none => exact Nat.zero_add _
      | some policy => exact Nat.add_comm _ _

theorem not_failed_of_blocks {items : List (D × Nat)} (each : compiler.Blocks world start items blocks) :
    ∀ event ∈ blocks.flatMap (·.1), event.isFailed = false := by
  intro event member
  obtain ⟨block, within, told⟩ := List.mem_flatMap.mp member
  obtain ⟨item, -, here⟩ := Outcome.related_result each within
  exact here.not_failed event told

namespace Story

variable (story : compiler.Story world start documents r handled blocks last)
include story

theorem skipped_indices :
    (blocks.flatMap (·.1) ++ last).filterMap Event.skippedIndex? =
      (handled.zipIdx.filter fun item =>
        (WorkloadKind.unsupported? (ManifestDocument.view item.1)).isSome).map (·.2) := by
  cases story with
  | complete each => rw [List.append_nil, skipped_of_blocks each]
  | broken _ each breaks =>
      rw [List.filterMap_append, skipped_of_blocks each, breaks.skipped_indices, List.append_nil]

theorem compiled_count {result : StreamResult D} (done : r = .ok result) :
    handled = documents ∧ last = [] ∧
      (blocks.flatMap (·.1) ++ last).countP Event.isCompiled = result.policies.length := by
  cases story with
  | complete each policies =>
      obtain rfl := Except.ok.inj done
      exact ⟨rfl, rfl, by rw [List.append_nil, compiled_of_blocks each, policies]⟩
  | broken => contradiction

theorem failed_iff :
    (∃ event ∈ blocks.flatMap (·.1) ++ last, event.isFailed = true) ↔
      ∃ e document rest, r = .error e ∧ documents = handled ++ document :: rest ∧
        compiler.ContainersFail world start document e := by
  cases story with
  | complete each =>
      have quiet := not_failed_of_blocks each
      simp only [List.append_nil, reduceCtorEq, false_and, exists_false, iff_false]
      rintro ⟨event, member, failed⟩
      rw [quiet event member] at failed
      contradiction
  | @broken _ rest document _ _ e split each breaks =>
      have quiet := not_failed_of_blocks each
      constructor
      · rintro ⟨event, member, failed⟩
        rcases List.mem_append.mp member with member | member
        · rw [quiet event member] at failed
          contradiction
        · exact ⟨e, document, rest, rfl, split, breaks.failed_iff.mp ⟨event, member, failed⟩⟩
      · rintro ⟨cause, other, others, failed, same, containers⟩
        obtain rfl := Except.error.inj failed
        obtain ⟨rfl, -⟩ := List.cons.inj (List.append_cancel_left (split.symm.trans same))
        obtain ⟨event, member, isFailed⟩ := breaks.failed_iff.mpr containers
        exact ⟨event, List.mem_append_right _ member, isFailed⟩

theorem failed_last {event : Event} (member : event ∈ blocks.flatMap (·.1) ++ last)
    (failed : event.isFailed = true) :
    ∃ e before, r = .error e ∧ blocks.flatMap (·.1) ++ last = before ++ [event] ∧
      (∀ other ∈ before, other.isFailed = false) ∧
      ∀ wording time, (event.record wording time).fields.get? (.text "error") =
        some (.text (e.message wording)) := by
  have early : ∀ {items : List (D × Nat)}, compiler.Blocks world start items blocks →
      event ∉ blocks.flatMap (·.1) := by
    intro items each told
    rw [not_failed_of_blocks each event told] at failed
    contradiction
  cases story with
  | complete each => exact absurd (by simpa using member) (early each)
  | broken _ each breaks =>
      have member := (List.mem_append.mp member).resolve_left (early each)
      obtain ⟨before, rfl, quiet, text⟩ := breaks.failed_last member failed
      refine ⟨_, blocks.flatMap (·.1) ++ before, rfl, (List.append_assoc ..).symm, ?_, text⟩
      intro other within
      rcases List.mem_append.mp within with within | within
      · exact not_failed_of_blocks each other within
      · exact quiet other within

theorem container_count {event : Event} (member : event ∈ blocks.flatMap (·.1) ++ last)
    (compiled : event.isCompiled = true) :
    ∃ item ∈ documents.zipIdx, ∃ told policy, compiler.Block world start item told (some policy) ∧
      event ∈ told ∧ ∀ wording time,
        (event.record wording time).fields.get? (.text "container_count") = some (.int policy.size) := by
  have early : ∀ {items : List (D × Nat)}, compiler.Blocks world start items blocks →
      event ∈ blocks.flatMap (·.1) →
      ∃ item ∈ items, ∃ told policy, compiler.Block world start item told (some policy) ∧
        event ∈ told ∧ ∀ wording time,
          (event.record wording time).fields.get? (.text "container_count") = some (.int policy.size) := by
    intro items each told
    obtain ⟨block, within, told⟩ := List.mem_flatMap.mp told
    obtain ⟨item, listed, here⟩ := Outcome.related_result each within
    obtain ⟨policy, found, count⟩ := here.container_count told compiled
    exact ⟨item, listed, block.1, policy, found ▸ here, told, count⟩
  cases story with
  | complete each => exact early each (by simpa using member)
  | broken split each breaks =>
      rw [split, List.zipIdx_append]
      rcases List.mem_append.mp member with told | told
      · obtain ⟨item, listed, found⟩ := early each told
        exact ⟨item, List.mem_append_left _ listed, found⟩
      · obtain ⟨policy, whole, count⟩ := breaks.container_count told compiled
        refine ⟨_, List.mem_append_right _ ?_, _, policy, whole, told, count⟩
        rw [List.zipIdx_cons, Nat.zero_add]
        exact List.mem_cons_self

end Story

end Stream

/-- The milestones of a compiled text are those of its documents one after another: skipped, or started, with
its containers, and compiled. Skipped are those of the handled documents, all of them if the text has a
result, for whose kinds there are no policies; a document is compiled with as many containers as it has
policies, and a text with a result has as many policy documents as compiled ones. Where the text has an
error, a failure is told exactly if a container or the sandbox has it, at the very end and with its text. -/
theorem milestones_form_blocks
    {compiler : WorkloadCompiler}
    {text : String}
    {world : World}
    {session after : Session}
    {r : Except PolicyError (StreamResult Yaml.Graph)}
    (ran : (compiler.streamText text).run world session = (r.mapError .policy, after)) :
    ∃ told, after.milestones = session.milestones ++ told ∧
      ((∃ e, r = .error e ∧ readStream world.machine text = .error (.policy e) ∧ told = []) ∨
        ∃ documents handled blocks last,
          Yaml.documents world.machine text = .ok documents ∧
          compiler.Story world session documents r handled blocks last ∧
          told = blocks.flatMap (·.1) ++ last ∧
          told.filterMap Event.skippedIndex? =
            (handled.zipIdx.filter fun item =>
              (WorkloadKind.unsupported? (ManifestDocument.view item.1)).isSome).map (·.2) ∧
          (∀ result, r = .ok result → handled = documents ∧ last = [] ∧
            told.countP Event.isCompiled = result.policies.length) ∧
          ((∃ event ∈ told, event.isFailed = true) ↔
            ∃ e document rest, r = .error e ∧ documents = handled ++ document :: rest ∧
              compiler.ContainersFail world session document e) ∧
          (∀ event ∈ told, event.isFailed = true →
            ∃ e before, r = .error e ∧ told = before ++ [event] ∧
              (∀ other ∈ before, other.isFailed = false) ∧
              ∀ wording time, (event.record wording time).fields.get? (.text "error") =
                some (.text (e.message wording))) ∧
          ∀ event ∈ told, event.isCompiled = true →
            ∃ item ∈ documents.zipIdx, ∃ own policy,
              compiler.Block world session item own (some policy) ∧ event ∈ own ∧
              ∀ wording time, (event.record wording time).fields.get? (.text "container_count") =
                some (.int policy.size)) := by
  cases read : readStream world.machine text with
  | error failure =>
      rw [run_stream_text, read, run_bind] at ran
      obtain ⟨same, rfl⟩ := Prod.mk.inj ran
      obtain ⟨e, rfl, refused⟩ := Outcome.map_error_error_iff.mp same.symm
      exact ⟨[], (List.append_nil _).symm, .inl ⟨e, rfl, congrArg Except.error refused.symm, rfl⟩⟩
  | ok documents =>
      rw [run_stream_text, read, run_bind] at ran
      obtain ⟨handled, blocks, last, story, told⟩ := story_of_stream ran
      exact ⟨_, told, .inr ⟨documents, handled, blocks, last, read_stream_ok read, story, rfl,
        story.skipped_indices, fun result done => story.compiled_count done, story.failed_iff,
        fun _ member failed => story.failed_last member failed,
        fun _ member compiled => story.container_count member compiled⟩⟩

/-- A list, a pod with two containers of one name, and a pod whose second container has no name. -/
def brokenText : String :=
  "[]\n--- \x7bkind: Pod, spec: \x7bcontainers: [&a \x7bname: a, image: a\x7d, *a]\x7d\x7d\n" ++
  "--- \x7bkind: Pod, spec: \x7bcontainers: [&a \x7bname: a, image: a\x7d, \x7b\x7d]\x7d\x7d\n"

/-- Whether a run ends in an error that is reported, and the types of its milestones. -/
def ending (run : Except Failure (StreamResult D) × Session) : Bool × List (Option Text) :=
  let refused := match run.1 with
    | .error (.policy _) => true
    | _ => false
  (refused, run.2.milestones.map Event.type?)

def brokenTypes : List (Option Text) :=
  [some "document.skipped", some "document.started", some "container.compiled", some "container.compiled",
    some "document.compiled", some "document.started", some "container.compiled", some "document.failed"]

theorem broken_text_told :
    ∃ e after,
      (({} : WorkloadCompiler).streamText brokenText).run World.shell {} = (.error (.policy e), after) ∧
      after.milestones.map Event.type? = brokenTypes ∧
      (∃ documents handled document rest, Yaml.documents World.shell.machine brokenText = .ok documents ∧
        documents = handled ++ document :: rest ∧
        ({} : WorkloadCompiler).ContainersFail World.shell {} document e ∧
        after.milestones.filterMap Event.skippedIndex? =
          (handled.zipIdx.filter fun item =>
            (WorkloadKind.unsupported? (ManifestDocument.view item.1)).isSome).map (·.2)) ∧
      ∃ before failed, after.milestones = before ++ [failed] ∧ ∀ wording time,
        (failed.record wording time).fields.get? (.text "error") = some (.text (e.message wording)) := by
  have ends : ending ((({} : WorkloadCompiler).streamText brokenText).run World.shell {}) =
      (true, brokenTypes) := by decide +kernel
  rcases ran : (({} : WorkloadCompiler).streamText brokenText).run World.shell {} with ⟨r, after⟩
  rw [ran] at ends
  obtain ⟨refused, types⟩ := Prod.mk.inj ends
  have typed : some ("document.failed" : Text) ∈ after.milestones.map Event.type? := types ▸ by decide
  obtain ⟨event, member, named⟩ := List.mem_map.mp typed
  have isFailed : event.isFailed = true := by
    cases event with
    | documentFailed => rfl
    | _ => simp [Event.type?] at named
  cases r with
  | ok result => exact absurd refused Bool.false_ne_true
  | error failure =>
      cases failure with
      | data fault => exact absurd refused Bool.false_ne_true
      | policy e =>
          have stopped : (({} : WorkloadCompiler).streamText brokenText).run World.shell {} =
              ((Except.error e : Except PolicyError (StreamResult Yaml.Graph)).mapError .policy, after) := ran
          obtain ⟨told, noted, unread | ⟨documents, handled, blocks, last, read, -, -, skipped, -, failed,
            once, -⟩⟩ := milestones_form_blocks stopped
          · obtain ⟨-, -, -, rfl⟩ := unread
            rw [noted] at member
            contradiction
          · obtain rfl : after.milestones = told := noted
            obtain ⟨cause, document, rest, same, split, containers⟩ := failed.mp ⟨event, member, isFailed⟩
            obtain rfl := Except.error.inj same
            obtain ⟨cause, before, same, told, -, text⟩ := once event member isFailed
            obtain rfl := Except.error.inj same
            exact ⟨_, after, rfl, types,
              ⟨documents, handled, document, rest, read, split, containers, skipped⟩, before, event, told, text⟩

end WorkloadCompiler

end LaunchPolicy
