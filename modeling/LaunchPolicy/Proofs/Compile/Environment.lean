import LaunchPolicy.Proofs.Compile.Container
import LaunchPolicy.Proofs.Rules.Environment

/-!
The environment of a container. Four sources are merged name by name; a variable that two of
them spell differently, one as a literal and one as a pattern, keeps a rule of each.
-/

namespace LaunchPolicy

open Env (IsVariable anchored hasValue named rulesOf)

/-- The image's rules, without the entries that ask for removals. -/
def ImageConfig.valuedRules (image : ImageConfig) : List Text := image.envRules.filter hasValue

theorem ImageConfig.mem_valued_rules {image : ImageConfig} {entry : Text}
    (member : entry ∈ image.env) (valued : hasValue entry = true) :
    "^" ++ entry ++ "$" ∈ image.valuedRules :=
  List.mem_filter.mpr ⟨List.mem_map_of_mem member, by rw [Env.has_value_between, valued]⟩

theorem ImageConfig.name_of_valued_rule {image : ImageConfig} {rule : Text}
    (member : rule ∈ image.valuedRules) : ∃ n, Env.name rule = anchored n := by
  obtain ⟨listed, valued⟩ := List.mem_filter.mp member
  obtain ⟨entry, -, rfl⟩ := List.mem_map.mp listed
  rw [Env.has_value_between] at valued
  exact ⟨Env.name entry, Env.name_between valued⟩

/-- Entries without a value find no rule to remove. -/
theorem ImageConfig.removals_unknown (image : ImageConfig) {names : List Text}
    (open_ : ∀ n ∈ names, n.points.getLast? ≠ some (.char '$')) :
    ∀ wanted ∈ image.envRules, hasValue wanted = false → wanted ∉ names := by
  intro wanted member _ inside
  obtain ⟨entry, -, rfl⟩ := List.mem_map.mp member
  have points : ("^" ++ entry ++ "$").points = (.char '^' :: entry.points) ++ [.char '$'] := by
    simp [Text.points_append]
  exact open_ _ inside (by rw [points, List.getLast?_concat])

namespace ContainerEntry

variable {entry : ContainerEntry} {world : World} {session after : Session} {own : List Text}

/-- The entry gives a variable a value of its own. -/
def HasLiteral (entry : ContainerEntry) (n value : Text) : Prop :=
  ∃ items fields, Manifest.sequence entry.fields "env" (entry.path.field "env") = .ok items ∧
    .map fields ∈ items ∧ Manifest.present? fields "name" = some (.text n) ∧
    Manifest.present? fields "value" = some (.text value)

theorem has_value_of_reference {n rule : Text} (form : IsReferenceRule n rule) :
    hasValue rule = true := by
  cases form <;> simp [hasValue, Text.points_append]

theorem environment_valued (ran : entry.environment.run world session = (.ok own, after)) :
    ∀ rule ∈ own, hasValue rule = true := by
  intro rule member
  obtain ⟨items, -, all⟩ := environment_ok ran
  obtain ⟨item, -, path, before, later, this⟩ := Outcome.related_result all member
  obtain ⟨fields, name, -, -, ⟨value, -, rfl⟩ | ⟨-, form⟩⟩ := environment_rule_form this
  · exact Env.has_value_literal name value
  · exact has_value_of_reference form

theorem literal_mem_environment {n value : Text} (literal : entry.HasLiteral n value)
    (ran : entry.environment.run world session = (.ok own, after)) : n ++ "=" ++ value ∈ own := by
  obtain ⟨items, fields, listed, member, hasName, hasValue⟩ := literal
  obtain ⟨others, again, all⟩ := environment_ok ran
  obtain rfl := Except.ok.inj (listed.symm.trans again)
  obtain ⟨rule, within, path, before, later, this⟩ := Outcome.related_item all member
  obtain ⟨inner, name, same, named, form⟩ := environment_rule_form this
  obtain rfl := Value.map.inj same
  obtain rfl : n = name := by simpa [hasName] using named
  rcases form with ⟨other, valued, rfl⟩ | ⟨absent, -⟩
  · obtain rfl : value = other := by simpa [hasValue] using valued
    exact within
  · rw [Fields.contains, Manifest.present_of_get hasValue] at absent
    contradiction

end ContainerEntry

namespace ContainerPolicy

/-- The sources of a container's environment, by rising precedence. -/
def environmentSources (withRuntime tty : Bool) (image : ImageConfig) (own : List Text) :
    List (List Text) :=
  [if withRuntime then Runtime.containerEnv tty else [], Kubelet.serviceEnv, image.valuedRules, own]

theorem named_merged {runtime kubelet own : List Text} (image : ImageConfig)
    (runtimeLasts : Env.Lasting runtime) (kubeletLasts : Env.Lasting kubelet)
    (ownValued : ∀ rule ∈ own, hasValue rule = true) (wanted : Text) :
    named (Env.merge (Env.merge (Env.merge runtime kubelet) image.envRules) own) wanted =
      ([runtime, kubelet, image.valuedRules, own].map (named · wanted)).foldl Env.supersede [] := by
  have kubeletValued : ∀ rule ∈ kubelet, hasValue rule = true := fun rule member =>
    (kubeletLasts rule member).1
  have lower := Env.named_merge_valued runtime kubeletValued
  have open_ : ∀ n ∈ (Env.merge runtime kubelet).map Env.name, n.points.getLast? ≠ some (.char '$') := by
    intro n member
    have known : named (Env.merge runtime kubelet) n ≠ [] := fun empty =>
      (Env.named_eq_nil_iff _ n).mp empty member
    rw [lower, ne_eq, Env.supersede_eq_nil_iff, Env.named_eq_nil_iff,
      Env.named_eq_nil_iff, ← not_or, not_not, List.mem_map, List.mem_map] at known
    rcases known with ⟨rule, within, rfl⟩ | ⟨rule, within, rfl⟩
    · exact (runtimeLasts rule within).2
    · exact (kubeletLasts rule within).2
  have middle := Env.named_merge (image.removals_unknown open_)
  rw [Env.named_merge_valued _ ownValued, middle, lower]
  simp [Env.supersede_nil_left, ImageConfig.valuedRules]

variable {entry : ContainerEntry} {volumes : Option Volumes} {image : ImageConfig}
  {privileged tty withRuntime : Bool} {world : World} {session after : Session}
  {policy : ContainerPolicy}

/-- The environment of a container is its four sources in three merges. -/
theorem build_merges
    (built : (build (some entry) volumes image (Runtime.containerRules privileged tty)
      Kubelet.containerRules withRuntime).run world session = (.ok policy, after)) :
    ∃ own, entry.environment.run world session = (.ok own, after) ∧
      policy.spec.process.env =
        (Env.merge (Env.merge (Env.merge (if withRuntime then Runtime.containerEnv tty else [])
          Kubelet.serviceEnv) image.envRules) own).map .text := by
  obtain ⟨declared, ran, completed⟩ := build_ok_iff.mp built
  obtain ⟨args, env, mounts, -, merged, -, rfl⟩ := complete_ok_iff.mp completed
  obtain ⟨-, ranEnv, -⟩ := Declared.of_entry_ok ran
  have defaults : (if withRuntime then Runtime.containerRules privileged tty else {}).process.env =
      (if withRuntime then Runtime.containerEnv tty else []).map .text := by
    cases withRuntime <;> rfl
  have kubelet : Kubelet.containerRules.process.env = Kubelet.serviceEnv.map .text := rfl
  rw [defaults, kubelet, merge_env_texts] at merged
  exact ⟨declared.env, ranEnv, (Except.ok.inj merged).symm⟩

theorem build_environment
    (built : (build (some entry) volumes image (Runtime.containerRules privileged tty)
      Kubelet.containerRules withRuntime).run world session = (.ok policy, after)) :
    ∃ own final, entry.environment.run world session = (.ok own, after) ∧
      policy.spec.process.env = final.map .text ∧
      ∀ wanted, named final wanted =
        ((environmentSources withRuntime tty image own).map (named · wanted)).foldl
          Env.supersede [] := by
  obtain ⟨own, ran, env⟩ := build_merges built
  have lasting : Env.Lasting (if withRuntime then Runtime.containerEnv tty else []) := by
    split
    · exact Runtime.container_env_lasting tty
    · simp [Env.Lasting]
  exact ⟨own, _, ran, env, named_merged image lasting Kubelet.service_env_lasting
    (ContainerEntry.environment_valued ran)⟩

/-- When a rule of the image for a variable is in the environment: it is the last pattern of the
variable, those of the container coming after those of the image, or it is another of the image's
and nothing below the image has a pattern of the variable. -/
def ImageRuleStays (withRuntime tty : Bool) (image : ImageConfig) (own : List Text)
    (n rule : Text) : Prop :=
  (named own (anchored n)).getLast?.or (named image.valuedRules (anchored n)).getLast? = some rule ∨
    (rule ∈ (named image.valuedRules (anchored n)).dropLast ∧
      named (if withRuntime then Runtime.containerEnv tty else []) (anchored n) = [] ∧
      named Kubelet.serviceEnv (anchored n) = [])

theorem image_rule_stays_iff {own final : List Text} {n rule : Text}
    (merged : ∀ wanted, named final wanted =
      ((environmentSources withRuntime tty image own).map (named · wanted)).foldl Env.supersede [])
    (listed : rule ∈ image.valuedRules) (pattern : Env.name rule = anchored n) :
    rule ∈ final ↔ ImageRuleStays withRuntime tty image own n rule := by
  have single := Env.length_named_le (lower_env_distinct withRuntime tty) (anchored n)
  rw [Env.named_append] at single
  have inFinal : rule ∈ final ↔ rule ∈ named final (anchored n) := by
    simp [Env.mem_named_iff, pattern]
  have inImage : named image.valuedRules (anchored n) ≠ [] :=
    List.ne_nil_of_mem (Env.mem_named_iff.mpr ⟨listed, pattern⟩)
  simp only [inFinal, merged, environmentSources, List.map_cons, List.map_nil, List.foldl_cons,
    List.foldl_nil, Env.supersede_nil_left, Env.supersede_of_length_le single, ImageRuleStays]
  -- what stands below the image is one rule at most
  rcases below : named (if withRuntime then Runtime.containerEnv tty else []) (anchored n) ++
    named Kubelet.serviceEnv (anchored n) with _ | ⟨lower, _ | ⟨second, more⟩⟩
  · have none := List.append_eq_nil_iff.mp below
    rw [Env.supersede_nil_left, Env.mem_supersede_iff inImage, none.1, none.2]
    simp [or_comm]
  · have some : ¬ (named (if withRuntime then Runtime.containerEnv tty else []) (anchored n) = [] ∧
        named Kubelet.serviceEnv (anchored n) = []) := by
      rw [← List.append_eq_nil_iff, below]
      simp
    have middle : Env.supersede [lower] (named image.valuedRules (anchored n)) =
        [(named image.valuedRules (anchored n)).getLast inImage] := by
      rw [Env.supersede, if_neg (by simp), List.getLast?_eq_some_getLast inImage]
      rfl
    rw [middle, Env.mem_supersede_iff (by simp), List.getLast?_eq_some_getLast inImage]
    simp [some]
  · rw [below] at single
    simp at single

/-- Literals of a variable are the runtime's one or those of the container. -/
theorem named_literal {own final : List Text} {n : Text} (variable_ : IsVariable n)
    (merged : ∀ wanted, named final wanted =
      ((environmentSources withRuntime tty image own).map (named · wanted)).foldl Env.supersede []) :
    named final n =
      Env.supersede (named (if withRuntime then Runtime.containerEnv tty else []) n) (named own n) := by
  have noService : named Kubelet.serviceEnv n = [] := by
    rw [Env.named_eq_nil_iff]
    exact fun member => variable_.2 (Kubelet.service_env_patterns n member)
  have noImage : named image.valuedRules n = [] := by
    rw [Env.named_eq_nil_iff]
    intro member
    obtain ⟨rule, listed, same⟩ := List.mem_map.mp member
    obtain ⟨other, pattern⟩ := ImageConfig.name_of_valued_rule listed
    exact variable_.ne_anchored other (same.symm.trans pattern)
  simp [merged, environmentSources, noService, noImage, Env.supersede_nil, Env.supersede_nil_left]

/-- A variable that an entry gives a literal and the image another value keeps the image's rule
unless the entry has a pattern of the variable as well; with one rule at most in each source, a
variable has the rule of the foremost source alone just when all sources spell it alike. -/
theorem variable_rules_by_spelling
    (built : (build (some entry) volumes image (Runtime.containerRules privileged tty)
      Kubelet.containerRules withRuntime).run world session = (.ok policy, after)) :
    ∃ own final, entry.environment.run world session = (.ok own, after) ∧
      policy.spec.process.env = final.map .text ∧
      (∀ n value other, IsVariable n → entry.HasLiteral n value →
        n ++ "=" ++ other ∈ image.env →
          n ++ "=" ++ value ∈ own ∧
          (∃ rule ∈ final, (named own n).getLast? = some rule) ∧
          (n ++ "=" ++ other ∈ final → n ++ "=" ++ other ∈ own) ∧
          ("^" ++ (n ++ "=" ++ other) ++ "$" ∈ final ↔
            ImageRuleStays withRuntime tty image own n ("^" ++ (n ++ "=" ++ other) ++ "$"))) ∧
      ∀ n, IsVariable n →
        (∀ source ∈ environmentSources withRuntime tty image own, (rulesOf source n).length ≤ 1) →
          (rulesOf final n =
              (Env.foremost? (environmentSources withRuntime tty image own) n).toList ↔
            ¬ ((∃ source ∈ environmentSources withRuntime tty image own, named source n ≠ []) ∧
              ∃ source ∈ environmentSources withRuntime tty image own,
                named source (anchored n) ≠ [])) := by
  obtain ⟨own, final, ran, env, merged⟩ := build_environment built
  refine ⟨own, final, ran, env, ?_, fun n _ once => Env.sole_rule_iff merged once⟩
  intro n value other variable_ literal declared
  have owned := ContainerEntry.literal_mem_environment literal ran
  have ownNamed : named own n ≠ [] :=
    List.ne_nil_of_mem (Env.mem_named_iff.mpr ⟨owned, Env.name_literal variable_.1 value⟩)
  have last := List.getLast?_eq_some_getLast ownNamed
  have literals := named_literal variable_ merged
  refine ⟨owned, ⟨_, ?_, last⟩, fun inside => ?_, ?_⟩
  · have inFinal := Env.last_mem_supersede
      (named (if withRuntime then Runtime.containerEnv tty else []) n) last
    rw [← literals] at inFinal
    exact (Env.mem_named_iff.mp inFinal).1
  · have short := Env.length_named_le (lower_env_distinct withRuntime tty) n
    rw [Env.named_append, List.length_append] at short
    have inFinal := Env.mem_named_iff.mpr ⟨inside, Env.name_literal variable_.1 other⟩
    rw [literals] at inFinal
    exact (Env.mem_named_iff.mp (Env.mem_of_mem_supersede (by omega) ownNamed inFinal)).1
  · have valued := Env.has_value_literal n other
    refine image_rule_stays_iff merged (ImageConfig.mem_valued_rules declared valued) ?_
    rw [Env.name_between valued, Env.name_literal variable_.1 other]

def settingEntry : ContainerEntry where
  fields := [(.text "env", .list [.object [("name", .text "A"), ("value", .text "2")]])]
  path := {}

def settingImage : ImageConfig := { cmd := ["run"], env := ["A=1"] }

private theorem setting_literal : settingEntry.HasLiteral "A" "2" :=
  ⟨_, _, rfl, List.mem_cons_self, rfl, rfl⟩

private theorem setting_built :
    ∃ policy, (build (some settingEntry) none settingImage (Runtime.containerRules false false)
      Kubelet.containerRules false).run .silent {} = (.ok policy, {}) := by
  have noTexts : Mounts.AtTexts [] := by simp [Mounts.AtTexts]
  have kubeletTexts : Mounts.AtTexts Kubelet.mounts := by simp [Mounts.AtTexts, Kubelet.mounts]
  have mounts := merge_mounts_at_texts settingImage noTexts noTexts kubeletTexts
  exact ⟨_, build_ok_iff.mpr ⟨{ env := ["A=2"] }, rfl, complete_ok_iff.mpr
    ⟨["run"], _, _, rfl, merge_env_texts [] Kubelet.serviceEnv settingImage ["A=2"], mounts, rfl⟩⟩⟩

theorem setting_rules :
    ∃ policy, (build (some settingEntry) none settingImage (Runtime.containerRules false false)
        Kubelet.containerRules false).run .silent {} = (.ok policy, {}) ∧
      ∃ own final : List Text, settingEntry.environment.run .silent {} = (.ok own, {}) ∧
        policy.spec.process.env = final.map .text ∧ ("A" : Text) ++ "=" ++ "2" ∈ own ∧
        (("^" : Text) ++ ("A" ++ "=" ++ "1") ++ "$" ∈ final ↔
          ImageRuleStays false false settingImage own "A" ("^" ++ ("A" ++ "=" ++ "1") ++ "$")) := by
  obtain ⟨policy, built⟩ := setting_built
  obtain ⟨own, final, ran, env, literals, -⟩ := variable_rules_by_spelling built
  obtain ⟨owned, -, -, stays⟩ := literals "A" "2" "1" (by decide) setting_literal (by decide)
  exact ⟨policy, built, own, final, ran, env, owned, stays⟩

/-- The image's value of `A` is still admitted beside that of the container. -/
theorem setting_keeps_image_rule :
    IsVariable "A" ∧ settingEntry.HasLiteral "A" "2" ∧ ("A=1" : Text) ∈ settingImage.env ∧
      ∃ policy, (build (some settingEntry) none settingImage (Runtime.containerRules false false)
          Kubelet.containerRules false).run .silent {} = (.ok policy, {}) ∧
        .text "A=2" ∈ policy.spec.process.env ∧ .text "^A=1$" ∈ policy.spec.process.env := by
  obtain ⟨policy, built⟩ := setting_built
  obtain ⟨own, final, ran, env, merged⟩ := build_environment built
  obtain rfl : own = ["A=2"] := Except.ok.inj (congrArg Prod.fst (ran.symm.trans rfl))
  have image : ("^A=1$" : Text) ∈ final :=
    (image_rule_stays_iff (n := "A") merged (by decide) (by decide)).mpr (.inl (by decide))
  have literal : ("A=2" : Text) ∈ named final "A" := by
    rw [named_literal (by decide) merged]
    decide
  refine ⟨by decide, setting_literal, by decide, policy, built, ?_, ?_⟩
  · exact env ▸ List.mem_map_of_mem (Env.mem_named_iff.mp literal).1
  · exact env ▸ List.mem_map_of_mem image

end ContainerPolicy

end LaunchPolicy
