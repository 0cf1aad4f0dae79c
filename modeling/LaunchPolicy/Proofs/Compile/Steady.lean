import LaunchPolicy.Compile.Stream
import LaunchPolicy.Proofs.Compile.Inherited
import LaunchPolicy.Proofs.Manifest.Workload

/-!
The compilation of a manifest is steady: what it makes of a manifest depends on what the cluster
answers, and it leaves the answers as they are. So a manifest that was compiled once is compiled to
the same policies later, with the config maps that were read before or without them.
-/

namespace LaunchPolicy

open Compile Manifest

variable {world : World} {cluster : Option ClusterSettings}

theorem ContainerEntry.steady_environment_rule {entry : ContainerEntry} (path : FieldPath) (item : Value) :
    (entry.environmentRule path item).Steady entry.cluster world :=
  (inherited_steady _ world).environment_rule rfl path item

theorem Declared.steady_of_entry (entry : ContainerEntry) (volumes : Option Volumes) :
    (ofEntry entry volumes).Steady entry.cluster world := (inherited_steady _ world).declared rfl volumes

theorem InspectorSettings.steady_fetch (settings : InspectorSettings) (reference : Text) :
    (settings.fetch reference).Steady cluster world := (inherited_steady _ world).fetch settings reference

namespace Compiler

theorem steady_runtime_rules (privileged tty : Bool) :
    (runtimeRules privileged tty).Steady cluster world := (inherited_steady _ world).runtime_rules privileged tty

theorem steady_container (compiler : Compiler) (entry : ContainerEntry) (volumes : Volumes)
    (withRuntime : Bool) :
    (compiler.container entry volumes withRuntime).Steady entry.cluster world :=
  (inherited_steady _ world).container compiler rfl volumes withRuntime

theorem steady_sandbox (compiler : Compiler) : compiler.sandbox.Steady cluster world :=
  (inherited_steady _ world).sandbox compiler

end Compiler

namespace WorkloadCompiler

variable (compiler : WorkloadCompiler)

theorem steady_add_container {volumes : Volumes} {entry : ContainerEntry}
    (resolved : entry.cluster = compiler.cluster) (document : PolicyDocument) :
    (compiler.addContainer volumes document entry).Steady compiler.cluster world := by
  apply (steady_of_except _).bind
  intro name
  rw [← resolved]
  exact (compiler.steady_container entry _ _).bind fun _ => (steady_note _).bind fun _ =>
    steady_pure _

theorem steady_policies {workload : Workload}
    (resolved : ∀ entry ∈ workload.containers ++ workload.initContainers,
      entry.cluster = compiler.cluster) :
    (compiler.policies workload).Steady compiler.cluster world := by
  apply (steady_fold fun document entry member =>
    compiler.steady_add_container (resolved entry member) document).bind
  intro document
  split
  · exact compiler.steady_sandbox.bind fun policy => steady_pure _
  · exact steady_pure _

/-- The policies of a workload, whose failure is noted before it is passed on. -/
def guarded (workload : Workload) : Compile PolicyDocument :=
  tryCatch (compiler.policies workload) fun failure => do
    if let .policy reason := failure then
      Compile.note (.documentFailed workload.kind.name workload.title reason)
    throw failure

theorem document_eq (workload : Workload) :
    compiler.document workload = do
      Compile.note (.documentStarted workload.kind.name workload.title)
      let document ← compiler.guarded workload
      Compile.note (.documentCompiled workload.kind.name workload.title document.size)
      return document := rfl

theorem steady_guarded {workload : Workload}
    (resolved : ∀ entry ∈ workload.containers ++ workload.initContainers,
      entry.cluster = compiler.cluster) :
    (compiler.guarded workload).Steady compiler.cluster world := by
  apply (compiler.steady_policies resolved).try_catch
  intro failure
  cases failure with
  | policy reason => exact (steady_note _).bind fun _ => steady_throw _
  | data fault => exact steady_throw _

theorem steady_document {workload : Workload}
    (resolved : ∀ entry ∈ workload.containers ++ workload.initContainers,
      entry.cluster = compiler.cluster) :
    (compiler.document workload).Steady compiler.cluster world :=
  (steady_note _).bind fun _ => (compiler.steady_guarded resolved).bind fun _ =>
    (steady_note _).bind fun _ => steady_pure _

/-- Manifests that are read alike are compiled alike. -/
theorem of_manifest_congr {manifest other : Value}
    (same : Workload.ofDocument other compiler.cluster = Workload.ofDocument manifest compiler.cluster) :
    compiler.ofManifest other = compiler.ofManifest manifest := by
  rw [ofManifest, ofManifest, Workload.extract, Workload.extract, same]

theorem steady_of_manifest (manifest : Value) :
    (compiler.ofManifest manifest).Steady compiler.cluster world := by
  rw [ofManifest, Workload.extract]
  cases read : Workload.ofDocument manifest compiler.cluster with
  | error e => exact steady_throw (.policy e)
  | ok workload =>
      have resolved := fun entry member => @Workload.cluster_of_entry _ _ _ read entry member
      change (Compile.note _ >>= fun _ => compiler.document workload >>= fun document =>
        pure (workload, document)).Steady compiler.cluster world
      exact (steady_note _).bind fun _ => (compiler.steady_document resolved).bind fun _ =>
        steady_pure _

variable {compiler} {session after later : Session}

theorem compile_congr {manifest other : Value} (index : Nat)
    (same : Workload.ofDocument other compiler.cluster = Workload.ofDocument manifest compiler.cluster) :
    compiler.compile? index other = compiler.compile? index manifest := by
  rw [compile?, compile?, of_manifest_congr compiler same]

theorem steady_compile (index : Nat) (manifest : Value) :
    (compiler.compile? index manifest).Steady compiler.cluster world := by
  apply ((compiler.steady_of_manifest manifest).map some).try_catch
  intro failure
  cases failure with
  | data fault => exact steady_throw _
  | policy reason =>
      simp only
      split
      · exact (steady_note _).bind fun _ => steady_pure _
      · exact steady_throw _

/-- The place in the stream shows in notes only. -/
theorem compile_result (index other : Nat) (manifest : Value) :
    ((compiler.compile? other manifest).run world session).1 =
      ((compiler.compile? index manifest).run world session).1 := by
  rw [compile?, compile?, run_try_catch, run_try_catch]
  rcases (some <$> compiler.ofManifest manifest).run world session with ⟨r, middle⟩
  cases r with
  | ok made => rfl
  | error failure =>
      cases failure with
      | data fault => rfl
      | policy reason =>
          simp only
          split <;> rfl

theorem compile_again {index other : Nat} {manifest : Value}
    {found : Option (Workload × PolicyDocument)}
    (ran : (compiler.compile? index manifest).run world session = (.ok found, after))
    (same : world.answers compiler.cluster later = world.answers compiler.cluster session) :
    ∃ last, (compiler.compile? other manifest).run world later = (.ok found, last) ∧
      world.answers compiler.cluster last = world.answers compiler.cluster session := by
  have result : ((compiler.compile? other manifest).run world session).1 = .ok found := by
    rw [compile_result index other, ran]
  obtain ⟨middle, ranOther⟩ := run_of_result result
  exact (steady_compile other manifest).reaches ranOther same

end WorkloadCompiler

end LaunchPolicy
