import LaunchPolicy.Proofs.Compile.Environment
import LaunchPolicy.Proofs.Compile.Typed
import LaunchPolicy.Proofs.Policy.Precedence

/-!
The precedence of the sources of a container's environment, end to end. The rules of the runtime and
the kubelet keep their places under all that the image and the container declare, and with no name
twice in the image or in the container each name has one rule, that of the last source with the name.
-/

namespace LaunchPolicy.ContainerPolicy

open Env (hasValue)

/-- What the runtime, if it is part of it, and the kubelet put into the environment of a container. -/
def lowerEnv (withRuntime tty : Bool) : List Text :=
  (if withRuntime then Runtime.containerEnv tty else []) ++ Kubelet.serviceEnv

theorem lower_env_lasting (withRuntime tty : Bool) : Env.Lasting (lowerEnv withRuntime tty) := by
  intro rule member
  rcases List.mem_append.mp member with runtime | kubelet
  · cases withRuntime with
    | false => contradiction
    | true => exact Runtime.container_env_lasting tty rule runtime
  · exact Kubelet.service_env_lasting rule kubelet

/-- No name of the kubelet is one of the runtime, so its rules just follow. -/
theorem merge_lower_env (withRuntime tty : Bool) :
    Env.merge (if withRuntime then Runtime.containerEnv tty else []) Kubelet.serviceEnv =
      lowerEnv withRuntime tty := by
  have distinct := lower_env_distinct withRuntime tty
  rw [List.map_append, List.nodup_append] at distinct
  apply Env.merge_apart
  · intro rule member
    exact (Kubelet.service_env_lasting rule member).1
  · intro rule member inside
    exact distinct.2.2 _ inside _ (List.mem_map_of_mem member) rfl

theorem valued_rules_valued (image : ImageConfig) :
    ∀ rule ∈ image.valuedRules, hasValue rule = true :=
  Env.valued_of_filter image.envRules

/-- Entries of an image without a value neither add a rule nor remove one. -/
theorem merge_image_rules {rules : List Text} (lasting : Env.Lasting rules) (image : ImageConfig) :
    Env.merge rules image.envRules = Env.merge rules image.valuedRules := by
  have open_ : ∀ n ∈ rules.map Env.name, n.points.getLast? ≠ some (.char '$') := by
    intro n member
    obtain ⟨rule, listed, rfl⟩ := List.mem_map.mp member
    exact (lasting rule listed).2
  rw [Env.merge_unknown (image.removals_unknown open_),
    Env.merge_valued _ (valued_rules_valued image)]
  rfl

theorem merge_image_env (withRuntime tty : Bool) (image : ImageConfig) :
    Env.merge (lowerEnv withRuntime tty) image.envRules =
      Env.merge (lowerEnv withRuntime tty) image.valuedRules :=
  merge_image_rules (lower_env_lasting withRuntime tty) image

/-- The environment that the four sources come to. -/
def finalEnv (withRuntime tty : Bool) (image : ImageConfig) (own : List Text) : List Text :=
  Env.merge (Env.merge (lowerEnv withRuntime tty) image.valuedRules) own

section

variable {image : ImageConfig} {withRuntime tty : Bool} {own : List Text}

theorem mem_final_env (ownValued : ∀ rule ∈ own, hasValue rule = true) {rule : Text}
    (member : rule ∈ finalEnv withRuntime tty image own) :
    ∃ source ∈ environmentSources withRuntime tty image own, rule ∈ source := by
  rcases Env.mem_merge ownValued member with below | fromEntry
  · rcases Env.mem_merge (valued_rules_valued image) below with lower | fromImage
    · rcases List.mem_append.mp lower with runtime | kubelet
      · exact ⟨_, List.mem_cons_self, runtime⟩
      · exact ⟨_, List.mem_cons_of_mem _ List.mem_cons_self, kubelet⟩
    · exact ⟨image.valuedRules, by simp [environmentSources], fromImage⟩
  · exact ⟨own, by simp [environmentSources], fromEntry⟩

theorem sources_valued (ownValued : ∀ rule ∈ own, hasValue rule = true) :
    ∀ source ∈ environmentSources withRuntime tty image own, ∀ rule ∈ source,
      hasValue rule = true := by
  have lower := lower_env_lasting withRuntime tty
  intro source member rule listed
  simp only [environmentSources, List.mem_cons, List.not_mem_nil, or_false] at member
  rcases member with rfl | rfl | rfl | rfl
  · exact (lower rule (List.mem_append_left _ listed)).1
  · exact (lower rule (List.mem_append_right _ listed)).1
  · exact valued_rules_valued image rule listed
  · exact ownValued rule listed

/-- What stands below the image keeps its places, whatever replaces it there. -/
theorem names_final_env (ownValued : ∀ rule ∈ own, hasValue rule = true) :
    ((finalEnv withRuntime tty image own).take (lowerEnv withRuntime tty).length).map Env.name =
      (lowerEnv withRuntime tty).map Env.name := by
  rw [List.map_take, finalEnv, Env.names_merge _ ownValued,
    Env.names_merge _ (valued_rules_valued image), List.append_assoc,
    ← List.length_map Env.name, List.take_left]

/-- Each name once, with the rule that comes last in the order of the sources. -/
theorem final_env_keeps (ownValued : ∀ rule ∈ own, hasValue rule = true)
    (imageDistinct : (image.valuedRules.map Env.name).Nodup) (ownDistinct : (own.map Env.name).Nodup) :
    Keyed.Keeps Env.name (finalEnv withRuntime tty image own)
      (lowerEnv withRuntime tty ++ image.valuedRules ++ own) := by
  have lowerDistinct : ((lowerEnv withRuntime tty).map Env.name).Nodup :=
    lower_env_distinct withRuntime tty
  have lower : Keyed.Keeps Env.name (lowerEnv withRuntime tty) (lowerEnv withRuntime tty) :=
    ⟨(Keyed.erase_dups_of_nodup lowerDistinct).symm, fun _ => rfl⟩
  have middle := Env.keeps_merge lower (valued_rules_valued image) imageDistinct
  exact Env.keeps_merge middle ownValued ownDistinct

theorem final_env_layered (ownValued : ∀ rule ∈ own, hasValue rule = true)
    (imageDistinct : (image.valuedRules.map Env.name).Nodup) (ownDistinct : (own.map Env.name).Nodup) :
    Env.Layered (finalEnv withRuntime tty image own) (environmentSources withRuntime tty image own) := by
  have lowerDistinct : ((lowerEnv withRuntime tty).map Env.name).Nodup :=
    lower_env_distinct withRuntime tty
  have whole : Keyed.Keeps Env.name (finalEnv withRuntime tty image own)
      (lowerEnv withRuntime tty ++ image.valuedRules ++ own) :=
    final_env_keeps ownValued imageDistinct ownDistinct
  have sources : lowerEnv withRuntime tty ++ image.valuedRules ++ own =
      (environmentSources withRuntime tty image own).flatten := by
    simp [lowerEnv, environmentSources]
  rw [sources] at whole
  rw [lowerEnv, List.map_append, List.nodup_append] at lowerDistinct
  apply Env.layered_of_keeps whole
  intro source member
  simp only [environmentSources, List.mem_cons, List.not_mem_nil, or_false] at member
  rcases member with rfl | rfl | rfl | rfl
  · exact lowerDistinct.1
  · exact lowerDistinct.2.1
  · exact imageDistinct
  · exact ownDistinct

end

variable {entry : ContainerEntry} {volumes : Option Volumes} {image : ImageConfig}
  {privileged tty withRuntime : Bool} {world : World} {session after : Session}
  {policy : ContainerPolicy}

/-- The environment of a container under its four sources. All rules have a value and come from one of
the sources; the names of the runtime and the kubelet stand first and in their order; and with one rule
a name in the image and in the container, every name has the rule of the last source with it. -/
theorem environment_layered
    (built : (build (some entry) volumes image (Runtime.containerRules privileged tty)
      Kubelet.containerRules withRuntime).run world session = (.ok policy, after)) :
    ∃ own final, entry.environment.run world session = (.ok own, after) ∧
      policy.spec.process.env = final.map .text ∧
      (∀ rule ∈ own, hasValue rule = true) ∧
      (∀ rule ∈ final, ∃ source ∈ environmentSources withRuntime tty image own, rule ∈ source) ∧
      (∀ declared ∈ image.env, hasValue declared = false → "^" ++ declared ++ "$" ∉ final) ∧
      (final.take (lowerEnv withRuntime tty).length).map Env.name =
        (lowerEnv withRuntime tty).map Env.name ∧
      ((image.valuedRules.map Env.name).Nodup → (own.map Env.name).Nodup →
        Env.Layered final (environmentSources withRuntime tty image own)) := by
  obtain ⟨own, ran, env⟩ := build_merges built
  rw [merge_lower_env, merge_image_env] at env
  have ownValued := ContainerEntry.environment_valued ran
  refine ⟨own, finalEnv withRuntime tty image own, ran, env, ownValued,
    fun rule member => mem_final_env ownValued member, ?_, names_final_env ownValued,
    final_env_layered ownValued⟩
  intro declared member valueless inside
  obtain ⟨source, listed, within⟩ := mem_final_env ownValued inside
  have valued := sources_valued ownValued source listed _ within
  rw [Env.has_value_between, valueless] at valued
  contradiction

/-- An entry that sets the terminal and a variable of its own. -/
def terminalEntry : ContainerEntry where
  fields := [(.text "env", .list [.object [("name", .text "TERM"), ("value", .text "dumb")],
    .object [("name", .text "A"), ("value", .text "2")]])]
  path := {}

/-- An image with a search path and with a variable that has no value. -/
def searchImage : ImageConfig := { cmd := ["run"], env := ["PATH=/bin", "B"] }

/-- The image declares what the runtime has as well, and so does the container, with the terminal. -/
theorem terminal_environment_layered :
    ∃ policy own final after,
      (build (some terminalEntry) none searchImage (Runtime.containerRules false true)
        Kubelet.containerRules true).run .silent {} = (.ok policy, after) ∧
      own = [.string "TERM=dumb", .string "A=2"] ∧ policy.spec.process.env = List.map .text final ∧
      (searchImage.valuedRules.map Env.name).Nodup ∧ (own.map Env.name).Nodup ∧
      ("^B$" : Text) ∉ final ∧ Env.Layered final (environmentSources true true searchImage own) := by
  have result : (terminalEntry.environment.run .silent {}).1 = .ok ["TERM=dumb", "A=2"] := by
    decide +kernel
  obtain ⟨after, read⟩ := Compile.run_of_result result
  have declared : (Declared.ofAny (some terminalEntry) none).run .silent {} =
      (.ok { env := ["TERM=dumb", "A=2"] }, after) :=
    Compile.run_of_policy_bind_ok_iff.mpr ⟨{}, rfl, Compile.run_bind_ok_iff.mpr ⟨_, after, read, rfl⟩⟩
  have defaultTexts : Mounts.AtTexts (Runtime.containerRules false true).mounts :=
    Mounts.at_texts_of_typed (Runtime.container_rules_sound false true).typed.mounts
  have noTexts : Mounts.AtTexts [] := by simp [Mounts.AtTexts]
  have kubeletTexts : Mounts.AtTexts Kubelet.mounts := by simp [Mounts.AtTexts, Kubelet.mounts]
  have mounts := merge_mounts_at_texts searchImage defaultTexts noTexts kubeletTexts
  have env := merge_env_texts (Runtime.containerEnv true) Kubelet.serviceEnv searchImage
    ["TERM=dumb", "A=2"]
  obtain ⟨policy, built⟩ : ∃ policy, (build (some terminalEntry) none searchImage
      (Runtime.containerRules false true) Kubelet.containerRules true).run .silent {} =
        (.ok policy, after) :=
    ⟨_, build_ok_iff.mpr ⟨_, declared, complete_ok_iff.mpr ⟨["run"], _, _, rfl, env, mounts, rfl⟩⟩⟩
  obtain ⟨own, final, ran, same, -, -, bare, -, layered⟩ := environment_layered built
  obtain rfl : own = ["TERM=dumb", "A=2"] := Except.ok.inj (congrArg Prod.fst (ran.symm.trans read))
  have imageDistinct : (searchImage.valuedRules.map Env.name).Nodup := by decide
  have ownDistinct : ((["TERM=dumb", "A=2"] : List Text).map Env.name).Nodup := by decide
  exact ⟨policy, _, final, after, built, rfl, same, imageDistinct, ownDistinct,
    bare "B" (by decide) (by decide), layered imageDistinct ownDistinct⟩

end LaunchPolicy.ContainerPolicy
