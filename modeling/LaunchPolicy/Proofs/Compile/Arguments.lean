import LaunchPolicy.Compile.Stream
import LaunchPolicy.Proofs.Compile.Assembly

/-!
What a container runs. Its own command goes before all that its image says, its own arguments before
the image's arguments alone, and where nothing is left to run there is no policy. So every policy
that is compiled, of a container, of an image or of the sandbox, names something to run.
-/

namespace LaunchPolicy

namespace EntryPoint

variable {command args : List Text} {image : ImageConfig}

theorem image_command_eq_nil_iff :
    imageCommand image = [] ↔ image.entrypoint = [] ∨ image.entrypoint = [.string ""] := by
  rw [imageCommand]
  split
  · rename_i sentinel
    simp [sentinel]
  · rename_i other
    simp [other]

/-- What there is to run before it is known to be anything. -/
def resolved (command args : List Text) (image : ImageConfig) : List Text :=
  if command ≠ [] then command ++ args
  else imageCommand image ++ if args ≠ [] then args else image.cmd

theorem resolve_args_eq (command args : List Text) (image : ImageConfig) :
    resolveArgs command args image =
      if resolved command args image = [] then .error .noCommand
      else .ok (resolved command args image) := by
  have same : resolveArgs command args image =
      if (resolved command args image).isEmpty then .error .noCommand
      else .ok (resolved command args image) := by
    cases command <;> cases args <;> rfl
  rw [same]
  simp only [List.isEmpty_iff]

theorem resolved_eq_nil_iff :
    resolved command args image = [] ↔
      command = [] ∧ args = [] ∧ image.cmd = [] ∧
        (image.entrypoint = [] ∨ image.entrypoint = [.string ""]) := by
  rw [← image_command_eq_nil_iff, resolved]
  cases command with
  | cons word words => simp
  | nil =>
      cases args with
      | cons word words => simp
      | nil => simp [and_comm]

theorem resolve_args_ok_iff {result : List Text} :
    resolveArgs command args image = .ok result ↔
      resolved command args image = result ∧ result ≠ [] := by
  rw [resolve_args_eq]
  split
  · rename_i nothing
    simp [nothing]
  · rename_i some
    constructor
    · intro same
      obtain rfl := Except.ok.inj same
      exact ⟨rfl, some⟩
    · rintro ⟨rfl, -⟩
      rfl

theorem resolve_args_error_iff {e : PolicyError} :
    resolveArgs command args image = .error e ↔
      e = .noCommand ∧ command = [] ∧ args = [] ∧ image.cmd = [] ∧
        (image.entrypoint = [] ∨ image.entrypoint = [.string ""]) := by
  rw [← resolved_eq_nil_iff, resolve_args_eq]
  split
  · rename_i nothing
    simp [nothing, eq_comm]
  · rename_i some
    simp [some]

theorem command_prefix_resolved : command <+: resolved command args image := by
  rw [resolved]
  split
  · exact List.prefix_append command args
  · rename_i none
    rw [not_not.mp none]
    exact List.nil_prefix

theorem args_suffix_resolved : args <:+ resolved command args image := by
  rw [resolved]
  split
  · exact List.suffix_append command args
  · by_cases some : args ≠ []
    · rw [if_pos some]
      exact List.suffix_append _ args
    · rw [not_not.mp some]
      exact List.nil_suffix

end EntryPoint

namespace ContainerPolicy

def Runs (policy : ContainerPolicy) : Prop := policy.spec.process.args ≠ []

theorem build_runs (entry : Option ContainerEntry) (volumes : Option Volumes) (image : ImageConfig)
    (runtime kubelet : LaunchSpec) (withRuntime : Bool) :
    (build entry volumes image runtime kubelet withRuntime).Yields Runs := by
  intro world session policy after built
  obtain ⟨declared, -, completed⟩ := build_ok_iff.mp built
  obtain ⟨args, env, mounts, resolved, -, -, rfl⟩ := complete_ok_iff.mp completed
  have some := (EntryPoint.resolve_args_ok_iff.mp resolved).2
  simpa [Runs] using some

end ContainerPolicy

open ContainerPolicy (Runs build_runs)
open Compile (yields_bind yields_pure)

namespace Compiler

theorem container_runs (compiler : Compiler) (entry : ContainerEntry) (volumes : Volumes)
    (withRuntime : Bool) : (compiler.container entry volumes withRuntime).Yields Runs :=
  yields_bind fun _ => yields_bind fun _ => yields_bind fun _ => yields_bind fun image =>
    yields_bind fun runtime => build_runs _ _ image runtime _ withRuntime

theorem bare_image_runs (compiler : Compiler) (reference : Text) (withRuntime : Bool) :
    (compiler.bareImage reference withRuntime).Yields Runs :=
  yields_bind fun image => build_runs none none image _ _ withRuntime

theorem sandbox_runs (compiler : Compiler) : compiler.sandbox.Yields Runs :=
  yields_bind fun _ => yields_bind fun image => build_runs none none image _ _ true

end Compiler

namespace PolicyDocument

/-- All containers of a document have something to run. -/
def AllRun (document : PolicyDocument) : Prop := ∀ entry ∈ document.containers, entry.2.Runs

theorem AllRun.add {document : PolicyDocument} (all : document.AllRun) (name : Text)
    {policy : ContainerPolicy} (runs : policy.Runs) : (document.add name policy).AllRun := by
  intro entry member
  rw [PolicyDocument.add, insert_eq_put] at member
  rcases Keyed.mem_put _ member with rfl | member
  · exact runs
  · exact all entry member

theorem empty_all_run : ({} : PolicyDocument).AllRun := by simp [AllRun]

end PolicyDocument

namespace WorkloadCompiler

open PolicyDocument (AllRun empty_all_run)

variable (compiler : WorkloadCompiler)

theorem policies_all_run (workload : Workload) : (compiler.policies workload).Yields AllRun :=
  policies_yield empty_all_run (fun _ name _ all => all.add name) compiler.container_runs
    compiler.sandbox_runs workload

theorem of_manifest_all_run (manifest : Value) :
    (compiler.ofManifest manifest).Yields fun made => made.2.AllRun := by
  intro world session made after ran
  exact (of_manifest_yields (fun workload _ => compiler.policies_all_run workload) world session made
    after ran).2

theorem of_image_all_run (reference : Text) : (compiler.ofImage reference).Yields AllRun :=
  (compiler.bare_image_runs reference _).bind fun _ runs =>
    yields_bind fun _ => yields_pure (empty_all_run.add _ runs)

/-- The arguments of a container are resolved from its own and those of its image, and there is
nothing that runs nothing: neither a list of arguments, nor a policy, in any document. -/
theorem arguments_resolved :
    (∀ command args image,
      (∀ e, EntryPoint.resolveArgs command args image = .error e ↔
        e = .noCommand ∧ command = [] ∧ args = [] ∧ image.cmd = [] ∧
          (image.entrypoint = [] ∨ image.entrypoint = [.string ""])) ∧
      (∀ result, EntryPoint.resolveArgs command args image = .ok result →
        result ≠ [] ∧ command <+: result ∧ args <:+ result) ∧
      (command ≠ [] → EntryPoint.resolveArgs command args image = .ok (command ++ args)) ∧
      (args ≠ [] → ∀ cmd, EntryPoint.resolveArgs [] args { image with cmd } =
        EntryPoint.resolveArgs [] args image) ∧
      (∀ result, EntryPoint.resolveArgs [] [] image = .ok result →
        result = (if image.entrypoint = [.string ""] then [] else image.entrypoint) ++ image.cmd)) ∧
    (∀ compiler : WorkloadCompiler,
      (∀ entry volumes withRuntime, (compiler.container entry volumes withRuntime).Yields fun policy =>
        policy.spec.process.args ≠ []) ∧
      (∀ reference withRuntime, (compiler.bareImage reference withRuntime).Yields fun policy =>
        policy.spec.process.args ≠ []) ∧
      (compiler.sandbox.Yields fun policy => policy.spec.process.args ≠ []) ∧
      (∀ manifest, (compiler.ofManifest manifest).Yields fun made =>
        ∀ entry ∈ made.2.containers, entry.2.spec.process.args ≠ []) ∧
      (∀ reference, (compiler.ofImage reference).Yields fun document =>
        ∀ entry ∈ document.containers, entry.2.spec.process.args ≠ []) ∧
      ∀ text, (compiler.streamText text).Yields fun result =>
        ∀ document ∈ result.policies, ∀ entry ∈ document.containers,
          entry.2.spec.process.args ≠ []) := by
  constructor
  · intro command args image
    refine ⟨fun e => EntryPoint.resolve_args_error_iff, ?_, ?_, ?_, ?_⟩
    · intro result resolved
      obtain ⟨rfl, some⟩ := EntryPoint.resolve_args_ok_iff.mp resolved
      exact ⟨some, EntryPoint.command_prefix_resolved, EntryPoint.args_suffix_resolved⟩
    · intro some
      have whole : EntryPoint.resolved command args image = command ++ args := if_pos some
      exact EntryPoint.resolve_args_ok_iff.mpr ⟨whole, by simp [some]⟩
    · intro some cmd
      have same : EntryPoint.resolved [] args { image with cmd } = EntryPoint.resolved [] args image := by
        simp only [EntryPoint.resolved, if_pos some]
        rfl
      rw [EntryPoint.resolve_args_eq, EntryPoint.resolve_args_eq, same]
    · intro result resolved
      obtain ⟨rfl, -⟩ := EntryPoint.resolve_args_ok_iff.mp resolved
      rfl
  · intro compiler
    exact ⟨compiler.container_runs, compiler.bare_image_runs, compiler.sandbox_runs,
      compiler.of_manifest_all_run, compiler.of_image_all_run,
      fun text => yields_bind fun _ => yields_bind fun documents => stream_yields compiler.policies_all_run documents⟩

/-- A pod with a container that only adds an argument. -/
def argumentText : String :=
  "kind: Pod\nspec: \x7bcontainers: [\x7bname: a, image: a, args: [x]\x7d]\x7d\n"

/-- A command of its own is run as it is, and a compiled pod has something to run. -/
theorem argument_pod_runs :
    EntryPoint.resolveArgs ["run"] [] {} = .ok ["run"] ∧
      ∃ result after,
        (({} : WorkloadCompiler).streamText argumentText).run World.shell {} = (.ok result, after) ∧
        result.policies.map PolicyDocument.names = ([["a"]] : List (List Text)) ∧
        ∀ document ∈ result.policies, ∀ entry ∈ document.containers, entry.2.spec.process.args ≠ [] := by
  obtain ⟨resolves, all⟩ := arguments_resolved
  obtain ⟨-, -, own, -, -⟩ := resolves ["run"] [] {}
  obtain ⟨-, -, -, -, -, streamed⟩ := all {}
  have compiled : ((({} : WorkloadCompiler).streamText argumentText).run World.shell {}).1.map
      (·.policies.map PolicyDocument.names) = .ok ([["a"]] : List (List Text)) := by
    decide +kernel
  obtain ⟨result, made, names⟩ := Outcome.map_ok_iff.mp compiled
  obtain ⟨after, ran⟩ := Compile.run_of_result made
  exact ⟨own (by decide), result, after, ran, names, streamed argumentText World.shell {} result after ran⟩

end WorkloadCompiler

end LaunchPolicy
