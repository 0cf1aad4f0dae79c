import LaunchPolicy.Proofs.Compile.Sources
import LaunchPolicy.Proofs.Session.Agree
import Mathlib.Data.List.Nodup

/-!
What the runtime's defaults do to the policy of a container. They neither make it fail nor keep it
from failing, and all that they change of it is to add their own rules and mounts where it has no
other, a working directory where there is none, the terminal and the version.
-/

namespace LaunchPolicy

theorem ImageConfig.valued_rules_distinct {image : ImageConfig}
    (distinct : (image.env.map Env.name).Nodup) : (image.valuedRules.map Env.name).Nodup := by
  have rules : image.valuedRules =
      (image.env.filter Env.hasValue).map fun entry : Text => "^" ++ entry ++ "$" := by
    rw [valuedRules, envRules, List.filter_map]
    congr 1
    apply List.filter_congr
    intro entry _
    exact Env.has_value_between entry
  have names : image.valuedRules.map Env.name =
      ((image.env.filter Env.hasValue).map Env.name).map Env.anchored := by
    rw [rules, List.map_map, List.map_map]
    apply List.map_congr_left
    intro entry member
    exact Env.name_between (Env.valued_of_filter image.env entry member)
  have anchoredInjective : Function.Injective Env.anchored := by
    intro n other same
    have points := congrArg Text.points same
    simp only [Env.anchored, Text.points_append, List.append_cancel_left_eq] at points
    exact Text.points_inj.mp points
  rw [names]
  exact List.Nodup.map anchoredInjective (distinct.sublist (List.filter_sublist.map Env.name))

namespace Gathered

variable {gathered : Gathered}

theorem Sound.env_adds (sound : gathered.Sound)
    (imageDistinct : (gathered.image.env.map Env.name).Nodup)
    (ownDistinct : (gathered.declared.env.map Env.name).Nodup) :
    Keyed.Adds Env.name (Runtime.containerEnv gathered.tty) (gathered.env false) (gathered.env true) := by
  -- Both environments keep the last rule of each name, with the runtime's in front of the same list.
  have rulesDistinct := ImageConfig.valued_rules_distinct imageDistinct
  have plain : Keyed.Keeps Env.name (gathered.env false)
      (Kubelet.serviceEnv ++ gathered.image.valuedRules ++ gathered.declared.env) :=
    ContainerPolicy.final_env_keeps sound.valued rulesDistinct ownDistinct
  have wide : Keyed.Keeps Env.name (gathered.env true) (Runtime.containerEnv gathered.tty ++
      (Kubelet.serviceEnv ++ gathered.image.valuedRules ++ gathered.declared.env)) := by
    rw [← List.append_assoc, ← List.append_assoc]
    exact ContainerPolicy.final_env_keeps sound.valued rulesDistinct ownDistinct
  exact plain.in_front wide

theorem Sound.mounts_add (sound : gathered.Sound) :
    Keyed.Adds Mount.destination (Runtime.containerRules gathered.privileged gathered.tty).mounts
      (gathered.mounts false) (gathered.mounts true) :=
  (sound.mounts_keep false).in_front (sound.mounts_keep true)

theorem cwd_eq_empty_iff :
    gathered.cwd = "" ↔ gathered.declared.entryPoint.workingDir = "" ∧ gathered.image.workingDir = "" := by
  rw [cwd, EntryPoint.resolveCwd]
  by_cases own : gathered.declared.entryPoint.workingDir = "" <;> simp [own]

/-- A working directory is the same with the defaults, unless they give the only one. -/
theorem cwd_of_defaults (args : List Text) :
    if gathered.declared.entryPoint.workingDir = "" ∧ gathered.image.workingDir = "" then
      (gathered.policy false args).spec.process.cwd = .text "" ∧
        (gathered.policy true args).spec.process.cwd = .text "/"
    else (gathered.policy false args).spec.process.cwd = (gathered.policy true args).spec.process.cwd := by
  split
  · rename_i neither
    have empty := cwd_eq_empty_iff.mpr neither
    exact ⟨if_pos empty, if_pos empty⟩
  · rename_i either
    have declared : ¬ gathered.cwd = "" := fun empty => either (cwd_eq_empty_iff.mp empty)
    exact (if_neg declared).trans (if_neg declared).symm

end Gathered

namespace Compiler

open Outcome (Agree)

/-- The policies of a container without and with the runtime's defaults. -/
theorem defaults_only_add (compiler : Compiler) (entry : ContainerEntry) (volumes : Volumes)
    (world : World) (session : Session) :
    Agree (fun plain wide => ∃ gathered,
        compiler.gather entry volumes world session = .ok gathered ∧
        plain.spec.process.args = wide.spec.process.args ∧
        plain.spec.process.user = wide.spec.process.user ∧ plain.custom = wide.custom ∧
        (if gathered.declared.entryPoint.workingDir = "" ∧ gathered.image.workingDir = "" then
          plain.spec.process.cwd = .text "" ∧ wide.spec.process.cwd = .text "/"
        else plain.spec.process.cwd = wide.spec.process.cwd) ∧
        plain.spec.process.terminal = false ∧ wide.spec.process.terminal = gathered.tty ∧
        plain.spec.ociVersion = .text "" ∧ wide.spec.ociVersion = .text ociVersion ∧
        Keyed.Adds Mount.destination (Runtime.containerRules gathered.privileged gathered.tty).mounts
          plain.spec.mounts wide.spec.mounts ∧
        ((gathered.image.env.map Env.name).Nodup → (gathered.declared.env.map Env.name).Nodup →
          ∃ plainRules wideRules, plain.spec.process.env = plainRules.map .text ∧
            wide.spec.process.env = wideRules.map .text ∧
            Keyed.Adds Env.name (Runtime.containerEnv gathered.tty) plainRules wideRules))
      ((compiler.container entry volumes false).run world session).1
      ((compiler.container entry volumes true).run world session).1 := by
  rw [container_result, container_result]
  cases made : compiler.gather entry volumes world session with
  | error failure => exact .error failure
  | ok gathered =>
      have sound := gather_sound made
      change Agree _ (gathered.args.map _) (gathered.args.map _)
      cases gathered.args with
      | error failure => exact .error failure
      | ok args =>
          exact .ok ⟨gathered, rfl, rfl, rfl, rfl, Gathered.cwd_of_defaults args, rfl, rfl, rfl, rfl,
            sound.mounts_add, fun imageDistinct ownDistinct =>
              ⟨_, _, rfl, rfl, sound.env_adds imageDistinct ownDistinct⟩⟩

/-- The defaults give a container its only working directory and go around the rule that it has for the
terminal. -/
theorem flagged_entry_defaults_added :
    ∃ plain wide plainRules wideRules,
      ((container {} (flaggedEntry true) [] false).run .shell {}).1 = .ok plain ∧
      ((container {} (flaggedEntry true) [] true).run .shell {}).1 = .ok wide ∧
      plain.spec.process.cwd = .text "" ∧ wide.spec.process.cwd = .text "/" ∧
      plain.spec.process.env = plainRules.map .text ∧ wide.spec.process.env = wideRules.map .text ∧
      Keyed.Adds Env.name (Runtime.containerEnv true) plainRules wideRules := by
  have agree := defaults_only_add {} (flaggedEntry true) [] .shell {}
  obtain ⟨plain, made⟩ := flagged_entry_runs true false
  rw [made] at agree
  obtain ⟨wide, madeToo, gathered, gathers, -, -, -, cwd, -, -, -, -, -, env⟩ := agree.of_ok
  obtain rfl := Except.ok.inj (gathers.symm.trans (gather_flagged_entry true))
  obtain ⟨plainRules, wideRules, rules, rulesToo, adds⟩ := env (by decide) (by decide)
  exact ⟨plain, wide, plainRules, wideRules, made, madeToo, cwd.1, cwd.2, rules, rulesToo, adds⟩

end Compiler

end LaunchPolicy
