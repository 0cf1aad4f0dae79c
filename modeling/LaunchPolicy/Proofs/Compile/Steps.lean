import LaunchPolicy.Proofs.Compile.Assembly
import LaunchPolicy.Proofs.Compile.Questions
import LaunchPolicy.Proofs.Compile.Stream

/-!
The steps of a compilation, in the order in which they are taken. What a manifest says fixes the steps,
and a run takes them one after another: it succeeds when it has taken all of them, and it fails in one of
them, before any later one.
-/

namespace LaunchPolicy

open Compile Manifest

variable {α β : Type}

/-- Only the notes on a run may have grown. -/
def Session.Quiet (before after : Session) : Prop := after = { before with events := after.events }

theorem Session.quiet_refl (session : Session) : session.Quiet session := rfl

theorem Session.Quiet.trans {before middle after : Session} (first : before.Quiet middle)
    (second : middle.Quiet after) : before.Quiet after := by
  rw [Quiet, second, first]

/-- A step of a compilation. -/
inductive Step where
  /-- A part of a manifest is read. -/
  | reading (outcome : Read Unit)
  | inspection (reference : Text)
  /-- The rule for a variable is made. -/
  | rule (entry : ContainerEntry) (path : FieldPath) (item : Value)
  /-- The policy of a container is put together from what was read and answered. -/
  | completion
  | annotating (kind : WorkloadKind) (document : Yaml.Graph)

def Step.read (reading : Read α) : Step := .reading (reading.map fun _ => ())

/-- Whether there is a result. -/
def done (r : Except Failure α) : Except Failure Unit := r.map fun _ => ()

namespace WorkloadCompiler

/-- A step ends: in which session it begins, whether it fails, and which session it leaves. -/
def Ends (compiler : WorkloadCompiler) (world : World) : Step → Session → Except Failure Unit → Session → Prop
  | .reading outcome, before, r, after => r = outcome.mapError .policy ∧ before.Quiet after
  | .inspection reference, before, r, after =>
      ∃ image, (compiler.inspector.fetch reference).run world before = (image, after) ∧ r = done image
  | .rule entry path item, before, r, after => entry.cluster = compiler.cluster ∧
      ∃ rule, (entry.environmentRule path item).run world before = (rule, after) ∧ r = done rule
  | .completion, before, r, after => before.Quiet after ∧ ∃ defaults kubelet image declared,
      r = done (ContainerPolicy.complete defaults kubelet image declared)
  | .annotating kind document, before, r, after => before.Quiet after ∧ ∃ policy,
      r = done (ManifestDocument.annotate kind policy document)

/-- Steps are taken one after another, and none of them fails. -/
inductive Taken (compiler : WorkloadCompiler) (world : World) : Session → List Step → Session → Prop
  | nil {session after : Session} (quiet : session.Quiet after) : Taken compiler world session [] after
  | cons {session before middle after : Session} {step : Step} {steps : List Step}
      (quiet : session.Quiet before)
      (ends : compiler.Ends world step before (.ok ()) middle)
      (others : Taken compiler world middle steps after) :
      Taken compiler world session (step :: steps) after

/-- A run fails in one of the steps: all before it are taken, and none after it. -/
inductive Halts (compiler : WorkloadCompiler) (world : World) (session : Session) (steps : List Step)
    (failure : Failure) (after : Session) : Prop
  | inStep {front rest : List Step} {step : Step} {middle stopped : Session}
      (split : steps = front ++ step :: rest)
      (taken : compiler.Taken world session front middle)
      (fails : compiler.Ends world step middle (.error failure) stopped)
      (quiet : stopped.Quiet after)

variable {compiler : WorkloadCompiler} {world : World} {session middle after : Session}
  {steps more : List Step} {failure : Failure}

theorem Taken.noted {before : Session} (quiet : before.Quiet session)
    (taken : compiler.Taken world session steps after) : compiler.Taken world before steps after := by
  cases taken with
  | nil more => exact .nil (quiet.trans more)
  | cons more ends others => exact .cons (quiet.trans more) ends others

theorem Taken.append (first : compiler.Taken world session steps middle)
    (second : compiler.Taken world middle more after) :
    compiler.Taken world session (steps ++ more) after := by
  induction first with
  | nil quiet => exact second.noted quiet
  | cons quiet ends _ ih => exact .cons quiet ends (ih second)

theorem Halts.after_taken (first : compiler.Taken world session steps middle)
    (second : compiler.Halts world middle more failure after) :
    compiler.Halts world session (steps ++ more) failure after := by
  cases second with
  | inStep split taken fails quiet =>
      exact .inStep (by rw [split, List.append_assoc]) (first.append taken) fails quiet

theorem Halts.append (first : compiler.Halts world session steps failure after) (more : List Step) :
    compiler.Halts world session (steps ++ more) failure after := by
  cases first with
  | inStep split taken fails quiet =>
      exact .inStep (by rw [split, List.append_assoc, List.cons_append]) taken fails quiet

theorem Halts.quiet {last : Session} (halts : compiler.Halts world session steps failure after)
    (noted : after.Quiet last) : compiler.Halts world session steps failure last := by
  cases halts with
  | inStep split taken fails quiet => exact .inStep split taken fails (quiet.trans noted)

/-- An action takes steps, or fails in one of them. -/
structure Walks (compiler : WorkloadCompiler) (world : World) (steps : List Step)
    (action : Compile α) : Prop where
  taken : ∀ {session a after}, action.run world session = (.ok a, after) →
    compiler.Taken world session steps after
  halts : ∀ {session failure after}, action.run world session = (.error failure, after) →
    compiler.Halts world session steps failure after

theorem Walks.bind_ran {action : Compile α} {next : α → Compile β}
    (first : compiler.Walks world steps action)
    (then_ : ∀ session a middle, action.run world session = (.ok a, middle) →
      compiler.Walks world more (next a)) : compiler.Walks world (steps ++ more) (action >>= next) where
  taken ran := by
    obtain ⟨a, middle, start, ran⟩ := run_bind_ok_iff.mp ran
    exact (first.taken start).append ((then_ _ a middle start).taken ran)
  halts ran := by
    rcases run_bind_error_iff.mp ran with ran | ⟨a, middle, start, ran⟩
    · exact (first.halts ran).append more
    · exact ((then_ _ a middle start).halts ran).after_taken (first.taken start)

theorem Walks.bind {action : Compile α} {next : α → Compile β}
    (first : compiler.Walks world steps action)
    (then_ : ∀ a, compiler.Walks world more (next a)) :
    compiler.Walks world (steps ++ more) (action >>= next) := first.bind_ran fun _ a _ _ => then_ a

/-- Where nothing is left to do after an action but to note it. -/
theorem Walks.finish {action : Compile α} {next : α → Compile β}
    (first : compiler.Walks world steps action) (then_ : ∀ a, compiler.Walks world [] (next a)) :
    compiler.Walks world steps (action >>= next) :=
  List.append_nil steps ▸ first.bind then_

/-- An action that always has a result and asks nothing takes no steps. -/
theorem walks_quiet {action : Compile α}
    (quiet : ∀ session, ∃ a after, action.run world session = (.ok a, after) ∧ session.Quiet after) :
    compiler.Walks world [] action where
  taken ran := by
    obtain ⟨b, last, ranToo, quiet⟩ := quiet _
    obtain ⟨-, rfl⟩ := Prod.mk.inj (ranToo.symm.trans ran)
    exact .nil quiet
  halts ran := by
    obtain ⟨b, last, ranToo, quiet⟩ := quiet _
    exact absurd (congrArg Prod.fst (ranToo.symm.trans ran)) (by simp)

theorem walks_pure (a : α) : compiler.Walks world [] (pure a : Compile α) :=
  walks_quiet fun session => ⟨a, session, rfl, rfl⟩

theorem walks_note (event : Event) : compiler.Walks world [] (note event) :=
  walks_quiet fun _ => ⟨(), _, rfl, rfl⟩

/-- An action that is one step. -/
theorem walks_step {action : Compile α} {step : Step}
    (ends : ∀ session r after, action.run world session = (r, after) →
      compiler.Ends world step session (done r) after) : compiler.Walks world [step] action where
  taken {session _ after} ran := .cons session.quiet_refl (ends _ _ _ ran) (.nil after.quiet_refl)
  halts {session _ after} ran :=
    .inStep (List.nil_append _).symm (.nil session.quiet_refl) (ends _ _ _ ran) after.quiet_refl

theorem walks_read (reading : Read α) : compiler.Walks world [.read reading] (ofPolicy reading) :=
  walks_step fun session r after ran => by
    obtain ⟨rfl, rfl⟩ := Prod.mk.inj ((run_of_policy reading world session).symm.trans ran)
    refine ⟨?_, session.quiet_refl⟩
    cases reading <;> rfl

theorem walks_map_m {f : α → Compile β} {items : List α} {stepsOf : α → List Step}
    (each : ∀ item ∈ items, compiler.Walks world (stepsOf item) (f item)) :
    compiler.Walks world (items.flatMap stepsOf) (items.mapM f) := by
  induction items with
  | nil => exact walks_pure []
  | cons item items ih =>
      obtain ⟨here, rest⟩ := List.forall_mem_cons.mp each
      rw [List.mapM_cons, List.flatMap_cons]
      exact here.bind fun result => (ih rest).finish fun results => walks_pure (result :: results)

theorem walks_fold {step : β → α → Compile β} {items : List α} {stepsOf : α → List Step} {start : β}
    (each : ∀ item ∈ items, ∀ b, compiler.Walks world (stepsOf item) (step b item)) :
    compiler.Walks world (items.flatMap stepsOf) (items.foldlM step start) := by
  induction items generalizing start with
  | nil => exact walks_pure start
  | cons item items ih =>
      obtain ⟨here, rest⟩ := List.forall_mem_cons.mp each
      rw [List.foldlM_cons, List.flatMap_cons]
      exact (here start).bind fun b => ih rest

end WorkloadCompiler

/-! The steps of each part of a manifest -/

def ContainerEntry.variableSteps (entry : ContainerEntry) : List Step :=
  (itemsOf (.map entry.fields) "env").zipIdx.map fun item =>
    .rule entry ((entry.path.field "env").item item.2) item.1

/-- The steps to the policy of a container: its image is inspected before its variables are read. -/
def ContainerEntry.policySteps (volumes : Volumes) (entry : ContainerEntry) : List Step :=
  .read entry.securityContext :: .read entry.tty :: .read entry.image ::
    .inspection (entry.image.toOption.getD "") :: .read entry.entryPoint ::
    .read (sequence entry.fields "env" (entry.path.field "env")) :: entry.variableSteps ++
    [.read (entry.mounts volumes)] ++ [.completion]

def ContainerEntry.steps (volumes : Volumes) (entry : ContainerEntry) : List Step :=
  .read entry.name :: entry.policySteps volumes

namespace WorkloadCompiler

def sandboxSteps (compiler : WorkloadCompiler) : List Step :=
  if compiler.withRuntime then [.inspection compiler.pauseImage, .completion] else []

def workloadSteps (compiler : WorkloadCompiler) (workload : Workload) : List Step :=
  workload.entries.flatMap (ContainerEntry.steps workload.volumes) ++ compiler.sandboxSteps

/-- The steps for a document of a stream. A document that has no policy for its kind takes none. -/
def documentSteps (compiler : WorkloadCompiler) (document : Yaml.Graph) : List Step :=
  match Workload.ofDocument (ManifestDocument.view document) compiler.cluster with
  | .ok workload => compiler.workloadSteps workload ++ [.annotating workload.kind document]
  | .error e => if e.isUnsupportedKind then [] else [.reading (.error e)]

variable {compiler : WorkloadCompiler} {world : World}

theorem walks_fetch (reference : Text) :
    compiler.Walks world [.inspection reference] (compiler.inspector.fetch reference) :=
  walks_step fun _ r _ ran => ⟨r, ran, rfl⟩

theorem walks_complete (defaults kubelet : LaunchSpec) (image : ImageConfig) (declared : Declared) :
    compiler.Walks world [.completion]
      (Compile.ofExcept (ContainerPolicy.complete defaults kubelet image declared)) :=
  walks_step fun session r after ran => by
    obtain ⟨rfl, rfl⟩ := Prod.mk.inj ran
    exact ⟨session.quiet_refl, defaults, kubelet, image, declared, rfl⟩

theorem walks_environment {entry : ContainerEntry} (resolved : entry.cluster = compiler.cluster) :
    compiler.Walks world (.read (sequence entry.fields "env" (entry.path.field "env")) :: entry.variableSteps)
      entry.environment := by
  refine (walks_read (sequence entry.fields "env" (entry.path.field "env"))).bind_ran ?_
  intro session items middle ran
  have listed := sequence_items (Outcome.map_error_ok_iff.mp (congrArg Prod.fst ran))
  rw [listed, List.map_eq_flatMap]
  exact walks_map_m fun item _ => walks_step fun _ r _ ran => ⟨resolved, r, ran, rfl⟩

theorem walks_declared {entry : ContainerEntry} (resolved : entry.cluster = compiler.cluster)
    (volumes : Volumes) :
    compiler.Walks world (.read entry.entryPoint ::
        .read (sequence entry.fields "env" (entry.path.field "env")) :: entry.variableSteps ++
        [.read (entry.mounts volumes)])
      (Declared.ofEntry entry (some volumes)) := by
  refine (walks_read entry.entryPoint).bind fun entryPoint => ?_
  refine (walks_environment resolved).bind fun env => ?_
  exact (walks_read (entry.mounts volumes)).bind fun mounts => walks_pure _

theorem walks_runtime_rules (privileged tty : Bool) :
    compiler.Walks world [] (Compiler.runtimeRules privileged tty) :=
  walks_quiet fun session => by cases privileged <;> exact ⟨_, _, rfl, rfl⟩

theorem walks_container {entry : ContainerEntry} (resolved : entry.cluster = compiler.cluster)
    (volumes : Volumes) (withRuntime : Bool) :
    compiler.Walks world (entry.policySteps volumes)
      (compiler.container entry volumes withRuntime) := by
  refine (walks_read entry.securityContext).bind fun context => ?_
  refine (walks_read entry.tty).bind fun tty => (walks_read entry.image).bind_ran ?_
  intro session reference middle ran
  have named := Outcome.map_error_ok_iff.mp (congrArg Prod.fst ran)
  rw [named]
  refine (walks_fetch reference).bind fun image => ?_
  refine (walks_runtime_rules context.privileged tty).bind fun runtime => ?_
  exact (walks_declared resolved volumes).bind fun declared => walks_complete _ _ image declared

theorem walks_add_container {entry : ContainerEntry} (resolved : entry.cluster = compiler.cluster)
    (volumes : Volumes) (document : PolicyDocument) :
    compiler.Walks world (entry.steps volumes) (compiler.addContainer volumes document entry) :=
  (walks_read entry.name).bind fun name =>
    (walks_container resolved volumes compiler.withRuntime).finish fun _ =>
      (walks_note _).finish fun _ => walks_pure (document.add name _)

theorem walks_sandbox : compiler.Walks world [.inspection compiler.pauseImage, .completion]
    compiler.sandbox :=
  (walks_note _).bind fun _ => (walks_fetch compiler.pauseImage).bind fun image =>
    (walks_pure {}).bind fun declared => walks_complete _ _ image declared

theorem walks_policies {workload : Workload}
    (resolved : ∀ entry ∈ workload.entries, entry.cluster = compiler.cluster) :
    compiler.Walks world (compiler.workloadSteps workload) (compiler.policies workload) := by
  refine (walks_fold fun entry member document =>
    walks_add_container (resolved entry member) workload.volumes document).bind fun document => ?_
  rw [sandboxSteps]
  split
  · exact walks_sandbox.finish fun policy => walks_pure _
  · exact walks_pure document

/-- A failure that is noted and passed on is one of the same step. -/
theorem Walks.rethrown {action : Compile α} {handle : Failure → Compile α}
    (first : compiler.Walks world steps action)
    (passed : ∀ failure session, ∃ after, (handle failure).run world session = (.error failure, after) ∧
      session.Quiet after) : compiler.Walks world steps (tryCatch action handle) where
  taken {session a after} ran := by
    rw [run_try_catch] at ran
    rcases result : action.run world session with ⟨r, middle⟩
    rw [result] at ran
    cases r with
    | ok b =>
        cases ran
        exact first.taken result
    | error failure =>
        obtain ⟨last, rethrown, -⟩ := passed failure middle
        exact absurd (congrArg Prod.fst (rethrown.symm.trans ran)) (by simp)
  halts {session failure after} ran := by
    rw [run_try_catch] at ran
    rcases result : action.run world session with ⟨r, middle⟩
    rw [result] at ran
    cases r with
    | ok b => exact absurd (congrArg Prod.fst ran) (by simp)
    | error caught =>
        obtain ⟨last, rethrown, quiet⟩ := passed caught middle
        cases rethrown.symm.trans ran
        exact (first.halts result).quiet quiet

theorem walks_document {workload : Workload}
    (resolved : ∀ entry ∈ workload.entries, entry.cluster = compiler.cluster) :
    compiler.Walks world (compiler.workloadSteps workload) (compiler.document workload) := by
  refine (walks_note _).bind fun _ => Walks.finish ((walks_policies resolved).rethrown ?_) fun document =>
    (walks_note _).finish fun _ => walks_pure document
  -- the failure is noted, unless it is one of the data
  intro failure session
  cases failure <;> exact ⟨_, rfl, rfl⟩

theorem walks_of_manifest {manifest : Value} {workload : Workload}
    (read : Workload.ofDocument manifest compiler.cluster = .ok workload) :
    compiler.Walks world (compiler.workloadSteps workload) (compiler.ofManifest manifest) := by
  have resolved : ∀ entry ∈ workload.entries, entry.cluster = compiler.cluster :=
    fun _ member => Workload.cluster_of_entry read member
  rw [ofManifest, Workload.extract, read]
  change compiler.Walks world _ (note _ >>= fun _ => compiler.document workload >>= fun document =>
    pure (workload, document))
  exact (walks_note _).bind fun _ => (walks_document resolved).finish fun document => walks_pure _

theorem walks_compile {index : Nat} {manifest : Value} {workload : Workload}
    (read : Workload.ofDocument manifest compiler.cluster = .ok workload) :
    compiler.Walks world (compiler.workloadSteps workload) (compiler.compile? index manifest) where
  taken ran := by
    rcases compile_ok ran with ⟨-, other, -⟩ | ⟨made, -, compiled⟩
    · rw [Workload.of_document_kind read] at other
      contradiction
    · exact (walks_of_manifest read).taken compiled
  halts ran := by
    rcases compile_cases ran with ⟨made, same, -⟩ | ⟨reason, middle, same, -⟩ | ⟨cause, same, failed⟩
    · contradiction
    · contradiction
    · obtain rfl := Except.error.inj same
      exact (walks_of_manifest read).halts failed

/-- A document that cannot be read is skipped for its kind, or fails the run. -/
theorem walks_unread (index : Nat) (document : Yaml.Graph) {e : PolicyError}
    (unread : Workload.ofDocument (ManifestDocument.view document) compiler.cluster = .error e) :
    compiler.Walks world (if e.isUnsupportedKind then [] else [.reading (.error e)])
      (compiler.streamDocument index document) := by
  by_cases empty : ManifestDocument.view document = .null
  · have unsupported : e.isUnsupportedKind = true := by
      rw [empty] at unread
      exact Except.error.inj unread ▸ rfl
    rw [if_pos unsupported, streamDocument, empty]
    exact walks_pure _
  · have compiled := compile_unread unread index world
    rw [stream_document_eq index empty]
    cases unsupported : e.isUnsupportedKind with
    | true =>
        refine walks_quiet fun session => ⟨(document, none),
          { session with events := session.events ++ [.documentSkipped index e] }, ?_, rfl⟩
        rw [run_bind, compiled, unsupported]
        rfl
    | false =>
        refine walks_step fun session r after ran => ?_
        rw [run_bind, compiled, unsupported] at ran
        obtain ⟨rfl, rfl⟩ := Prod.mk.inj ran
        exact ⟨rfl, session.quiet_refl⟩

theorem walks_stream_document (index : Nat) (document : Yaml.Graph) :
    compiler.Walks world (compiler.documentSteps document) (compiler.streamDocument index document) := by
  rw [documentSteps]
  cases read : Workload.ofDocument (ManifestDocument.view document) compiler.cluster with
  | ok workload =>
      have filled : ManifestDocument.view document ≠ .null := by
        intro empty
        rw [empty] at read
        contradiction
      rw [stream_document_eq index filled]
      refine (walks_compile read).bind_ran fun session found middle ran => ?_
      rcases compile_ok ran with ⟨-, other, -⟩ | ⟨made, rfl, compiled⟩
      · rw [Workload.of_document_kind read] at other
        contradiction
      · obtain ⟨readToo, -⟩ := of_manifest_yields (fun workload _ => policies_sound compiler workload)
          world session _ middle compiled
        obtain rfl := Except.ok.inj (read.symm.trans readToo)
        have annotates : compiler.Walks world [.annotating made.1.kind document]
            (Compile.ofExcept (ManifestDocument.annotate made.1.kind made.2.encoded document)) :=
          walks_step fun session r after ran => by
            obtain ⟨rfl, rfl⟩ := Prod.mk.inj ran
            exact ⟨session.quiet_refl, _, rfl⟩
        exact annotates.finish fun annotated => (walks_note _).finish fun _ => walks_pure _
  | error e =>
      exact walks_unread index document read

theorem walks_stream (documents : List Yaml.Graph) :
    compiler.Walks world (documents.flatMap compiler.documentSteps) (compiler.stream documents) := by
  have each : compiler.Walks world (documents.zipIdx.flatMap fun item => compiler.documentSteps item.1)
      (documents.zipIdx.mapM fun item => compiler.streamDocument item.2 item.1) :=
    walks_map_m fun item _ => walks_stream_document item.2 item.1
  have steps : documents.flatMap compiler.documentSteps =
      documents.zipIdx.flatMap fun item => compiler.documentSteps item.1 := by
    rw [← List.flatMap_map Prod.fst compiler.documentSteps, List.zipIdx_map_fst]
  rw [steps, stream]
  exact each.finish fun compiled => walks_pure _

end WorkloadCompiler

end LaunchPolicy
