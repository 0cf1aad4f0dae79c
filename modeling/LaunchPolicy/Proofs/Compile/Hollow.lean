import LaunchPolicy.Compile.Stream
import LaunchPolicy.Proofs.Manifest.Hollow

/-!
The compilation of manifests without the members of their sets. A policy does not depend on these, so
manifests that only differ in their sets get the same policy.
-/

namespace LaunchPolicy

open Compile

theorem Declared.of_entry_hollow (entry : ContainerEntry) (volumes : Option Volumes) :
    ofEntry entry.hollow volumes = ofEntry entry volumes := by
  simp only [ofEntry, ContainerEntry.entry_point_hollow, ContainerEntry.environment_hollow,
    ContainerEntry.mounts_hollow]

theorem Compiler.container_hollow (compiler : Compiler) (entry : ContainerEntry) (volumes : Volumes)
    (withRuntime : Bool) :
    compiler.container entry.hollow volumes withRuntime = compiler.container entry volumes withRuntime := by
  simp only [container, ContainerEntry.security_context_hollow, ContainerEntry.tty_hollow,
    ContainerEntry.image_hollow, ContainerPolicy.build, Declared.of_entry_hollow]

namespace WorkloadCompiler

variable (compiler : WorkloadCompiler)

theorem add_container_hollow (volumes : Volumes) (document : PolicyDocument) (entry : ContainerEntry) :
    compiler.addContainer volumes document entry.hollow = compiler.addContainer volumes document entry := by
  simp only [addContainer, ContainerEntry.name_hollow, Compiler.container_hollow]

theorem policies_hollow (workload : Workload) :
    compiler.policies workload.hollow = compiler.policies workload := by
  simp only [policies, Workload.hollow, ← List.map_append, List.foldlM_map, add_container_hollow]

theorem document_hollow (workload : Workload) :
    compiler.document workload.hollow = compiler.document workload := by
  rw [document, document, policies_hollow]
  rfl

/-- What is made of a manifest, with the sets of the workload emptied. -/
def emptied (made : Workload × PolicyDocument) : Workload × PolicyDocument := (made.1.hollow, made.2)

theorem of_manifest_hollow (manifest : Value) :
    compiler.ofManifest manifest.hollow = emptied <$> compiler.ofManifest manifest := by
  rw [ofManifest, ofManifest, Workload.extract, Workload.extract, Workload.of_document_hollow]
  cases Workload.ofDocument manifest compiler.cluster with
  | error e => rfl
  | ok workload =>
      have counts : (workload.hollow.containers.length, workload.hollow.initContainers.length) =
          (workload.containers.length, workload.initContainers.length) := by
        simp [Workload.hollow]
      simp only [Except.map, of_policy_ok_bind, bind_assoc, pure_bind, map_bind, map_pure, document_hollow]
      rw [(Prod.mk.inj counts).1, (Prod.mk.inj counts).2]
      rfl

theorem run_compile_hollow (index : Nat) (manifest : Value) (world : World) (session : Session) :
    (compiler.compile? index manifest.hollow).run world session =
      (Option.map emptied <$> compiler.compile? index manifest).run world session := by
  rw [compile?, compile?, of_manifest_hollow, run_map, run_try_catch, run_try_catch, run_map, run_map, run_map]
  rcases (compiler.ofManifest manifest).run world session with ⟨r, after⟩
  cases r with
  | ok made => rfl
  | error failure =>
      cases failure with
      | data fault => rfl
      | policy reason =>
          simp only
          split <;> rfl

variable {compiler} {world : World} {session after : Session}

/-- Manifests that are the same but for their sets get the same policy, for the same kind. -/
theorem compile_same_hollow {index : Nat} {manifest other : Value}
    {found : Option (Workload × PolicyDocument)} (same : other.hollow = manifest.hollow)
    (ran : (compiler.compile? index manifest).run world session = (.ok found, after)) :
    ∃ made, (compiler.compile? index other).run world session = (.ok made, after) ∧
      made.map (fun each => (each.1.kind, each.2)) = found.map fun each => (each.1.kind, each.2) := by
  have runs : (Option.map emptied <$> compiler.compile? index other).run world session =
      (.ok (found.map emptied), after) := by
    rw [← run_compile_hollow, same, run_compile_hollow, run_map, ran]
  rw [run_map] at runs
  rcases ranOther : (compiler.compile? index other).run world session with ⟨r, last⟩
  rw [ranOther] at runs
  cases r with
  | error failure => simp at runs
  | ok made =>
      obtain ⟨alike, rfl⟩ := Prod.mk.inj runs
      refine ⟨made, rfl, ?_⟩
      have kinds := congrArg (Option.map fun each : Workload × PolicyDocument => (each.1.kind, each.2))
        (Except.ok.inj alike)
      simp only [Option.map_map] at kinds
      exact kinds

end WorkloadCompiler

end LaunchPolicy
