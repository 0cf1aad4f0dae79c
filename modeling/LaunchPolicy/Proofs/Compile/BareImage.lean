import LaunchPolicy.Proofs.Compile.Precedence
import LaunchPolicy.Proofs.Session.Agree

/-!
The policy of an image by itself beside that of a container that declares nothing but the image. They
differ in what the kubelet gives to a container and in nothing else.
-/

namespace LaunchPolicy

/-- An entry with an image and, at most, a name. -/
structure ContainerEntry.DeclaresOnly (entry : ContainerEntry) (reference : Text) : Prop where
  image : entry.fields.get? (.text "image") = some (.text reference)
  rest : ∀ field ∈ entry.fields, field.1 = .text "name" ∨ field.1 = .text "image"

namespace ContainerEntry.DeclaresOnly

variable {entry : ContainerEntry} {reference : Text}

theorem absent (only : entry.DeclaresOnly reference) {key : String} (notName : key ≠ "name")
    (notImage : key ≠ "image") : Manifest.present? entry.fields key = none := by
  suffices none_ : ∀ fields : Fields,
      (∀ field ∈ fields, field.1 = .text "name" ∨ field.1 = .text "image") →
        Fields.get? fields (.text key) = none by
    rw [Manifest.present?, none_ entry.fields only.rest]
  intro fields rest
  induction fields with
  | nil => rfl
  | cons field fields ih =>
      obtain ⟨here, rest⟩ := List.forall_mem_cons.mp rest
      rw [Fields.get?, ih rest]
      rcases here with same | same <;>
        simp [same, Scalar.same_key_text, Ne.symm notName, Ne.symm notImage]

theorem security_context_eq (only : entry.DeclaresOnly reference) : entry.securityContext = .ok {} := by
  rw [securityContext, Manifest.mapping?, only.absent (by decide) (by decide)]
  rfl

theorem tty_eq (only : entry.DeclaresOnly reference) : entry.tty = .ok false := by
  rw [tty, Manifest.flag, only.absent (by decide) (by decide)]

theorem image_eq (only : entry.DeclaresOnly reference) : entry.image = .ok reference := by
  rw [ContainerEntry.image, Manifest.string, Manifest.present?, only.image]

/-- Such an entry has no entry point, no variables and no mounts of its own. -/
theorem declared_eq (only : entry.DeclaresOnly reference) (volumes : Option Volumes) :
    Declared.ofEntry entry volumes = pure {} := by
  have lacks : ∀ key, key ≠ "name" → key ≠ "image" → ∀ path,
      Manifest.sequence entry.fields key path = .ok [] := by
    intro key notName notImage path
    rw [Manifest.sequence, only.absent notName notImage]
  have entryPoint : entry.entryPoint = .ok {} := by
    rw [ContainerEntry.entryPoint, Manifest.optionalString, only.absent (by decide) (by decide),
      Manifest.strings, Manifest.strings, lacks "command" (by decide) (by decide),
      lacks "args" (by decide) (by decide)]
    rfl
  have environment : entry.environment = pure [] := by
    rw [ContainerEntry.environment, lacks "env" (by decide) (by decide)]
    rfl
  rw [Declared.ofEntry, entryPoint, environment]
  cases volumes with
  | none => rfl
  | some volumes =>
      have mounts : entry.mounts volumes = .ok [] := by
        rw [ContainerEntry.mounts, lacks "volumeMounts" (by decide) (by decide)]
        rfl
      simp only [mounts]
      rfl

end ContainerEntry.DeclaresOnly

namespace ContainerPolicy

/-- Whether the kubelet leaves a place alone. -/
def isFree (destination : Value) : Bool := destination ∉ Kubelet.mounts.map Mount.destination

/-- Policies of one image that differ at most in what the kubelet adds to the second: its mounts, and its
rules in one piece where the image has no rule of their names. -/
structure SameButKubelet (image : ImageConfig) (bare full : ContainerPolicy) : Prop where
  frame : { full with spec := { full.spec with
    mounts := bare.spec.mounts
    process := { full.spec.process with env := bare.spec.process.env } } } = bare
  mounts : full.spec.mounts.filter (fun mount => isFree mount.destination) =
    bare.spec.mounts.filter fun mount => isFree mount.destination
  env : (∀ rule ∈ image.envRules, Env.name rule ∉ Kubelet.serviceEnv.map Env.name) →
    Kubelet.serviceEnv.map .text <:+: full.spec.process.env ∧
      full.spec.process.env.filter (fun rule => rule ∉ Kubelet.serviceEnv.map Value.text) =
        bare.spec.process.env

section

variable (withRuntime : Bool) (image : ImageConfig)

/-- The runtime's rules for a container without a terminal, if they are part of a policy. -/
def runtimeEnv (withRuntime : Bool) : List Text := if withRuntime then Runtime.containerEnv false else []

def runtimeSpec (withRuntime : Bool) : LaunchSpec :=
  if withRuntime then Runtime.containerRules false false else {}

theorem runtime_env_lasting : Env.Lasting (runtimeEnv withRuntime) := by
  cases withRuntime with
  | false => simp [runtimeEnv, Env.Lasting]
  | true => exact Runtime.container_env_lasting false

theorem merge_bare_env :
    mergeEnv ((runtimeEnv withRuntime).map .text) [] image [] =
      .ok ((Env.merge (runtimeEnv withRuntime) image.valuedRules).map .text) := by
  have nothing : ∀ rules, Env.merge rules [] = rules := fun rules => rfl
  have merged := merge_env_texts (runtimeEnv withRuntime) [] image []
  rwa [nothing, nothing, merge_image_rules (runtime_env_lasting withRuntime)] at merged

theorem merge_full_env :
    mergeEnv ((runtimeEnv withRuntime).map .text) (Kubelet.serviceEnv.map .text) image [] =
      .ok ((finalEnv withRuntime false image []).map .text) := by
  rw [merge_env_texts, runtimeEnv, merge_lower_env, merge_image_env]
  rfl

variable {withRuntime image}

/-- Where the image has none of their names, the kubelet's rules follow those of the runtime, and the
image does to the others what it would do without them. -/
theorem final_env_split
    (apart : ∀ rule ∈ image.valuedRules, Env.name rule ∉ Kubelet.serviceEnv.map Env.name) :
    finalEnv withRuntime false image [] =
      Env.replaced (runtimeEnv withRuntime) image.valuedRules ++ Kubelet.serviceEnv ++
        Env.fresh (runtimeEnv withRuntime) image.valuedRules := by
  have distinct := lower_env_distinct withRuntime false
  rw [List.map_append, List.nodup_append] at distinct
  have untouched : Env.replaced Kubelet.serviceEnv image.valuedRules = Kubelet.serviceEnv := by
    apply Env.replaced_eq_self
    intro n member override last
    obtain ⟨listed, rfl⟩ := Env.mem_named_iff.mp (List.mem_of_getLast? last)
    exact absurd member (apart override listed)
  have added : Env.fresh (runtimeEnv withRuntime ++ Kubelet.serviceEnv) image.valuedRules =
      Env.fresh (runtimeEnv withRuntime) image.valuedRules := by
    apply List.filter_congr
    intro rule member
    simp only [List.map_append, List.mem_append, apart rule member, or_false]
  have nothing : finalEnv withRuntime false image [] =
      Env.merge (runtimeEnv withRuntime ++ Kubelet.serviceEnv) image.valuedRules := rfl
  rw [nothing, Env.merge_valued _ (valued_rules_valued image), added, Env.replaced_append, untouched]
  intro rule member inside
  exact distinct.2.2 _ (List.mem_map_of_mem member) _ inside rfl

/-- Without the kubelet's rules the environment is the one that the image has by itself. -/
theorem final_env_without_kubelet
    (apart : ∀ rule ∈ image.valuedRules, Env.name rule ∉ Kubelet.serviceEnv.map Env.name) :
    (finalEnv withRuntime false image []).filter (fun rule => rule ∉ Kubelet.serviceEnv) =
      Env.merge (runtimeEnv withRuntime) image.valuedRules := by
  have distinct := lower_env_distinct withRuntime false
  rw [List.map_append, List.nodup_append] at distinct
  have front : ∀ rule ∈ Env.replaced (runtimeEnv withRuntime) image.valuedRules,
      rule ∉ Kubelet.serviceEnv := by
    intro rule member inside
    have named : Env.name rule ∈ (runtimeEnv withRuntime).map Env.name := by
      rw [← Env.names_replaced _ image.valuedRules]
      exact List.mem_map_of_mem member
    exact distinct.2.2 _ named _ (List.mem_map_of_mem inside) rfl
  have back : ∀ rule ∈ Env.fresh (runtimeEnv withRuntime) image.valuedRules,
      rule ∉ Kubelet.serviceEnv := by
    intro rule member inside
    exact apart rule (List.mem_filter.mp member).1 (List.mem_map_of_mem inside)
  have gone : Kubelet.serviceEnv.filter (fun rule => rule ∉ Kubelet.serviceEnv) = [] := by
    simp
  rw [final_env_split apart, List.filter_append, List.filter_append, gone, List.append_nil,
    List.filter_eq_self.mpr (by simpa using front), List.filter_eq_self.mpr (by simpa using back),
    Env.merge_valued _ (valued_rules_valued image)]

variable (withRuntime image)

theorem runtime_at_texts : Mounts.AtTexts (runtimeSpec withRuntime).mounts := by
  cases withRuntime with
  | false => simp [runtimeSpec, Mounts.AtTexts]
  | true => exact Mounts.at_texts_of_typed (Runtime.container_rules_sound false false).typed.mounts

/-- Where the kubelet mounts nothing, the mounts are those of the runtime and the image alone. -/
theorem merge_mounts_free {kubelet mounts : List Mount} (texts : Mounts.AtTexts kubelet)
    (managed : ∀ mount ∈ kubelet, isFree mount.destination = false)
    (merged : mergeMounts (runtimeSpec withRuntime).mounts [] kubelet image = .ok mounts) :
    mounts.filter (fun mount => isFree mount.destination) =
      (((runtimeSpec withRuntime).mounts ++ image.volumeMounts).filter fun mount =>
        isFree mount.destination).foldl (Keyed.put Mount.destination) [] := by
  have runtimeTexts := runtime_at_texts withRuntime
  have imageTexts := Mounts.at_texts_of_typed image.volume_mounts_typed
  have noTexts : Mounts.AtTexts [] := by simp [Mounts.AtTexts]
  obtain ⟨rfl, -⟩ := merge_mounts_keeps runtimeTexts noTexts texts merged
  have all : Mounts.AtTexts [(runtimeSpec withRuntime).mounts, image.volumeMounts, kubelet, []].flatten := by
    simpa using Mounts.at_texts_append runtimeTexts (Mounts.at_texts_append imageTexts texts)
  have taken : kubelet.filter (fun mount => isFree mount.destination) = [] := by
    simpa [List.filter_eq_nil_iff] using managed
  rw [Mounts.fold_place_eq_put noTexts all, Keyed.filter_fold Mount.destination isFree]
  simp [List.filter_append, taken]

/-- What a policy is put together from differs in the kubelet's part alone. -/
theorem complete_agree :
    Outcome.Agree (SameButKubelet image)
      (complete (runtimeSpec withRuntime) {} image {})
      (complete (runtimeSpec withRuntime) Kubelet.containerRules image {}) := by
  have runtimeTexts : Mounts.AtTexts (runtimeSpec withRuntime).mounts := runtime_at_texts withRuntime
  have noTexts : Mounts.AtTexts [] := by simp [Mounts.AtTexts]
  have kubeletTexts : Mounts.AtTexts Kubelet.mounts := Mounts.at_texts_of_typed Kubelet.mounts_typed
  have bareMounts := merge_mounts_at_texts image runtimeTexts noTexts noTexts
  have fullMounts := merge_mounts_at_texts image runtimeTexts noTexts kubeletTexts
  have rules : (runtimeSpec withRuntime).process.env = (runtimeEnv withRuntime).map .text := by
    cases withRuntime <;> rfl
  have bareEnv := merge_bare_env withRuntime image
  have fullEnv := merge_full_env withRuntime image
  rw [← rules] at bareEnv fullEnv
  have managed : ∀ mount ∈ Kubelet.mounts, isFree mount.destination = false := by
    intro mount member
    simpa [isFree] using ⟨mount, member, rfl⟩
  have mounts := (merge_mounts_free withRuntime image kubeletTexts managed fullMounts).trans
    (merge_mounts_free withRuntime image noTexts (by simp) bareMounts).symm
  simp only [complete, bareEnv, bareMounts,
    show Kubelet.containerRules.process.env = Kubelet.serviceEnv.map Value.text from rfl,
    show Kubelet.containerRules.mounts = Kubelet.mounts from rfl, fullEnv, fullMounts]
  refine Outcome.Agree.bind_same fun args => .ok ⟨rfl, mounts, fun apart => ?_⟩
  have apartValued : ∀ rule ∈ image.valuedRules, Env.name rule ∉ Kubelet.serviceEnv.map Env.name :=
    fun rule member => apart rule (List.mem_filter.mp member).1
  constructor
  · refine ⟨(Env.replaced (runtimeEnv withRuntime) image.valuedRules).map .text,
      (Env.fresh (runtimeEnv withRuntime) image.valuedRules).map .text, ?_⟩
    rw [← List.map_append, ← List.map_append, ← final_env_split apartValued]
  · have texts (rule : Text) : Value.text rule ∈ Kubelet.serviceEnv.map Value.text ↔
        rule ∈ Kubelet.serviceEnv := by simp
    rw [List.filter_map, ← final_env_without_kubelet apartValued]
    simp only [Function.comp_def, texts]

end

end ContainerPolicy

namespace Compiler

open ContainerPolicy (SameButKubelet complete complete_agree runtimeSpec)
open Outcome (Agree)

variable {entry : ContainerEntry} {reference : Text}

theorem bare_image_eq (compiler : Compiler) (reference : Text) (withRuntime : Bool) :
    compiler.bareImage reference withRuntime =
      compiler.inspector.fetch reference >>= fun image =>
        Compile.ofExcept (complete (runtimeSpec withRuntime) {} image {}) := rfl

theorem container_eq (compiler : Compiler) (only : entry.DeclaresOnly reference) (volumes : Volumes)
    (withRuntime : Bool) :
    compiler.container entry volumes withRuntime =
      compiler.inspector.fetch reference >>= fun image =>
        Compile.ofExcept (complete (runtimeSpec withRuntime) Kubelet.containerRules image {}) := by
  rw [container, only.security_context_eq, only.tty_eq, only.image_eq]
  simp only [ContainerPolicy.build, only.declared_eq]
  rfl

/-- An image by itself and a container that declares nothing but the image ask the same of their
surroundings, note the same and fail alike, or have policies that differ in the kubelet's part alone. -/
theorem bare_image_agrees (compiler : Compiler) (only : entry.DeclaresOnly reference) (volumes : Volumes)
    (withRuntime : Bool) (world : World) (session : Session) :
    ((compiler.bareImage reference withRuntime).run world session).2 =
        ((compiler.container entry volumes withRuntime).run world session).2 ∧
      Agree (fun bare full => ∃ image,
          ((compiler.inspector.fetch reference).run world session).1 = .ok image ∧
            SameButKubelet image bare full)
        ((compiler.bareImage reference withRuntime).run world session).1
        ((compiler.container entry volumes withRuntime).run world session).1 := by
  rw [bare_image_eq, container_eq compiler only, Compile.run_bind, Compile.run_bind]
  rcases (compiler.inspector.fetch reference).run world session with ⟨fetched, after⟩
  cases fetched with
  | error failure => exact ⟨rfl, .error failure⟩
  | ok image => exact ⟨rfl, (complete_agree withRuntime image).imp fun _ _ same => ⟨image, rfl, same⟩⟩

/-- An entry with an image that has a variable, and a volume where the kubelet mounts something. -/
def loggingEntry : ContainerEntry where
  fields := [(.text "name", .text "web"), (.text "image", .text "app")]
  path := {}

def loggingWorld : World where
  inspect _ := .exited 0 ("\x7b\"config\": \x7b\"Cmd\": [\"run\"], \"Env\": [\"PATH=/bin\", \"A=1\"], " ++
    "\"Volumes\": \x7b\"/dev/termination-log\": \x7b\x7d, \"/data\": \x7b\x7d\x7d\x7d\x7d") ""
  configMap _ _ := .refused ""

def loggingImage : ImageConfig where
  cmd := ["run"]
  env := ["PATH=/bin", "A=1"]
  volumes := ["/dev/termination-log", "/data"]

theorem logging_image_fetched :
    ((InspectorSettings.fetch {} "app").run loggingWorld {}).1 = .ok loggingImage := by decide +kernel

theorem logging_image_agrees :
    loggingEntry.DeclaresOnly "app" ∧ ∃ bare full,
      ((bareImage {} "app" true).run loggingWorld {}).1 = .ok bare ∧
      ((container {} loggingEntry [] true).run loggingWorld {}).1 = .ok full ∧
      SameButKubelet loggingImage bare full ∧
      full.spec.process.env.filter (fun rule => rule ∉ Kubelet.serviceEnv.map Value.text) =
        bare.spec.process.env := by
  have only : loggingEntry.DeclaresOnly "app" := ⟨rfl, by simp [loggingEntry]⟩
  obtain ⟨-, agree⟩ := bare_image_agrees {} only [] true loggingWorld {}
  have made : ∃ bare, ((bareImage {} "app" true).run loggingWorld {}).1 = .ok bare := by
    obtain ⟨after, ran⟩ := Compile.run_of_result logging_image_fetched
    rw [bare_image_eq, Compile.run_bind, ran]
    exact ⟨_, rfl⟩
  obtain ⟨bare, made⟩ := made
  rw [made] at agree
  obtain ⟨full, madeToo, image, fetched, same⟩ := agree.of_ok
  obtain rfl := Except.ok.inj (logging_image_fetched.symm.trans fetched)
  refine ⟨only, bare, full, made, madeToo, same, (same.env ?_).2⟩
  decide

end Compiler

end LaunchPolicy
