import LaunchPolicy.Compile.Container
import LaunchPolicy.Proofs.Manifest.Entry
import LaunchPolicy.Proofs.Policy.Env
import LaunchPolicy.Proofs.Policy.Mounts

/-!
How the policy of a container is built, and its mounts: those of four sources, each
destination once, where it appeared first and with the mount of the source that goes before
the others there.
-/

namespace LaunchPolicy

namespace Declared

def ofAny (entry : Option ContainerEntry) (volumes : Option Volumes) : Compile Declared :=
  match entry with
  | some entry => ofEntry entry volumes
  | none => pure {}

/-- The mounts that an entry declares, none where nothing can be resolved. -/
def mountsOf (entry : Option ContainerEntry) (volumes : Option Volumes) : Manifest.Read (List Mount) :=
  match entry, volumes with
  | some entry, some volumes => entry.mounts volumes
  | _, _ => .ok []

variable {world : World} {session after : Session} {declared : Declared}

theorem of_entry_ok {entry : ContainerEntry} {volumes : Option Volumes}
    (ran : (ofEntry entry volumes).run world session = (.ok declared, after)) :
    entry.entryPoint = .ok declared.entryPoint ∧
      entry.environment.run world session = (.ok declared.env, after) ∧
      mountsOf (some entry) volumes = .ok declared.mounts := by
  obtain ⟨entryPoint, readEntryPoint, ranRest⟩ := Compile.run_of_policy_bind_ok_iff.mp ran
  obtain ⟨env, middle, ranEnv, ranMounts⟩ := Compile.run_bind_ok_iff.mp ranRest
  clear ran ranRest
  cases volumes with
  | none =>
      obtain ⟨rfl, rfl⟩ : { entryPoint, env } = declared ∧ middle = after := by
        simpa [Compile.run_bind] using ranMounts
      exact ⟨readEntryPoint, ranEnv, rfl⟩
  | some volumes =>
      obtain ⟨mounts, listed, result⟩ := Compile.run_of_policy_bind_ok_iff.mp ranMounts
      obtain ⟨rfl, rfl⟩ : { entryPoint, env, mounts } = declared ∧ middle = after := by
        simpa using result
      exact ⟨readEntryPoint, ranEnv, listed⟩

theorem mounts_of_entry {entry : Option ContainerEntry} {volumes : Option Volumes}
    (ran : (ofAny entry volumes).run world session = (.ok declared, after)) :
    mountsOf entry volumes = .ok declared.mounts := by
  cases entry with
  | none =>
      obtain ⟨rfl, -⟩ : {} = declared ∧ session = after := by simpa [ofAny] using ran
      rfl
  | some entry => exact (of_entry_ok ran).2.2

theorem mounts_of_typed {entry : Option ContainerEntry} {volumes : Option Volumes}
    {mounts : List Mount} (read : mountsOf entry volumes = .ok mounts) :
    ∀ mount ∈ mounts, mount.Typed := by
  cases entry with
  | none =>
      obtain rfl := Except.ok.inj read
      simp
  | some entry =>
      cases volumes with
      | none =>
          obtain rfl := Except.ok.inj read
          simp
      | some volumes => exact ContainerEntry.mounts_typed read

end Declared

theorem ImageConfig.volume_mounts_typed (image : ImageConfig) :
    ∀ mount ∈ image.volumeMounts, mount.Typed := by
  intro mount member
  obtain ⟨volume, -, rfl⟩ := List.mem_map.mp member
  exact ⟨⟨_, rfl⟩, ⟨_, rfl⟩, ⟨_, rfl⟩⟩

theorem ImageConfig.volume_mounts_bound (image : ImageConfig) :
    ∀ mount ∈ image.volumeMounts, mount.isWritableWhenPrivileged = false := by
  intro mount member
  obtain ⟨volume, -, rfl⟩ := List.mem_map.mp member
  rfl

theorem Mounts.at_texts_of_typed {mounts : List Mount} (typed : ∀ mount ∈ mounts, mount.Typed) :
    AtTexts mounts := fun mount member => (typed mount member).destination

namespace ContainerPolicy

theorem complete_ok_iff {defaults kubelet : LaunchSpec} {image : ImageConfig} {declared : Declared}
    {policy : ContainerPolicy} :
    complete defaults kubelet image declared = .ok policy ↔
      ∃ args env mounts,
        EntryPoint.resolveArgs declared.entryPoint.command declared.entryPoint.args image = .ok args ∧
        mergeEnv defaults.process.env kubelet.process.env image declared.env = .ok env ∧
        mergeMounts defaults.mounts declared.mounts kubelet.mounts image = .ok mounts ∧
        { spec := { defaults with
          mounts
          process := { defaults.process with
            args := args.map .text
            cwd := if EntryPoint.resolveCwd declared.entryPoint.workingDir image = "" then
              defaults.process.cwd
              else .text (EntryPoint.resolveCwd declared.entryPoint.workingDir image)
            env } } } = policy := by
  constructor
  · intro completed
    obtain ⟨args, resolved, completed⟩ := Outcome.bind_ok_iff.mp completed
    obtain ⟨env, mergedEnv, completed⟩ := Outcome.bind_ok_iff.mp completed
    obtain ⟨mounts, mergedMounts, completed⟩ := Outcome.bind_ok_iff.mp completed
    exact ⟨args, env, mounts, Outcome.map_error_ok_iff.mp resolved,
      Outcome.map_error_ok_iff.mp mergedEnv, Outcome.map_error_ok_iff.mp mergedMounts,
      Except.ok.inj completed⟩
  · rintro ⟨args, env, mounts, resolved, mergedEnv, mergedMounts, rfl⟩
    rw [complete, resolved, mergedEnv, mergedMounts]
    rfl

theorem build_eq (entry : Option ContainerEntry) (volumes : Option Volumes) (image : ImageConfig)
    (runtime kubelet : LaunchSpec) (withRuntime : Bool) :
    build entry volumes image runtime kubelet withRuntime =
      Declared.ofAny entry volumes >>= fun declared =>
        Compile.ofExcept (complete (if withRuntime then runtime else {}) kubelet image declared) := by
  cases entry <;> rfl

theorem build_ok_iff {entry : Option ContainerEntry} {volumes : Option Volumes} {image : ImageConfig}
    {runtime kubelet : LaunchSpec} {withRuntime : Bool} {world : World} {session after : Session}
    {policy : ContainerPolicy} :
    (build entry volumes image runtime kubelet withRuntime).run world session = (.ok policy, after) ↔
      ∃ declared, (Declared.ofAny entry volumes).run world session = (.ok declared, after) ∧
        complete (if withRuntime then runtime else {}) kubelet image declared = .ok policy := by
  rw [build_eq, Compile.run_bind_ok_iff]
  simp only [Compile.run_of_except, Prod.mk.injEq]
  constructor
  · rintro ⟨declared, middle, ran, completed, rfl⟩
    exact ⟨declared, ran, completed⟩
  · rintro ⟨declared, ran, completed⟩
    exact ⟨declared, after, ran, completed, rfl⟩

theorem merge_env_texts (runtime kubelet : List Text) (image : ImageConfig) (own : List Text) :
    mergeEnv (runtime.map .text) (kubelet.map .text) image own =
      .ok ((Env.merge (Env.merge (Env.merge runtime kubelet) image.envRules) own).map .text) := by
  rw [mergeEnv]
  simp only [bind, Except.bind, Env.merge_values_texts]

/-- The three merges of rules that are texts do not fail. -/
theorem merge_env_typed {defaults kubelet : List Value} (image : ImageConfig) (own : List Text)
    (defaultsTyped : ∀ rule ∈ defaults, rule.IsText) (kubeletTyped : ∀ rule ∈ kubelet, rule.IsText) :
    ∃ env, mergeEnv defaults kubelet image own = .ok env := by
  obtain ⟨defaults, rfl⟩ := Value.texts_of_typed defaultsTyped
  obtain ⟨kubelet, rfl⟩ := Value.texts_of_typed kubeletTyped
  exact ⟨_, merge_env_texts defaults kubelet image own⟩

open Mounts in
/-- The three merges of mounts do not fail, and are one merge of all four lists. -/
theorem merge_mounts_at_texts {defaults own kubelet : List Mount} (image : ImageConfig)
    (defaultTexts : AtTexts defaults) (ownTexts : AtTexts own) (kubeletTexts : AtTexts kubelet) :
    mergeMounts defaults own kubelet image =
      .ok ([defaults, image.volumeMounts, kubelet, own].flatten.foldl place []) := by
  have imageTexts := at_texts_of_typed image.volume_mounts_typed
  have ownKubelet := at_texts_merge ownTexts kubeletTexts
  have ownImage := at_texts_merge ownKubelet imageTexts
  rw [mergeMounts]
  simp only [bind, Except.bind, merge_keyed_text ownTexts kubeletTexts,
    merge_keyed_text ownKubelet imageTexts, merge_keyed_text ownImage defaultTexts]
  -- each merge keeps what one merge of its parts keeps
  have lower := (merge_keeps ownTexts kubeletTexts).reduced (merge_keeps ownKubelet imageTexts)
  have stepwise := lower.reduced (merge_keeps ownImage defaultTexts)
  have extraTexts := at_texts_append defaultTexts (at_texts_append imageTexts kubeletTexts)
  have whole := merge_keeps ownTexts extraTexts
  rw [List.append_assoc, List.append_assoc] at whole
  rw [stepwise.unique whole, merge]
  simp

open Mounts in
theorem merge_mounts_keeps {defaults own kubelet mounts : List Mount} {image : ImageConfig}
    (defaultTexts : AtTexts defaults) (ownTexts : AtTexts own) (kubeletTexts : AtTexts kubelet)
    (merged : mergeMounts defaults own kubelet image = .ok mounts) :
    mounts = [defaults, image.volumeMounts, kubelet, own].flatten.foldl place [] ∧
      Keyed.Keeps Mount.destination mounts [defaults, image.volumeMounts, kubelet, own].flatten := by
  have whole := merge_mounts_at_texts image defaultTexts ownTexts kubeletTexts
  obtain rfl := Except.ok.inj (merged.symm.trans whole)
  refine ⟨rfl, ?_⟩
  rw [fold_place_eq_put (by simp [AtTexts])]
  · exact Keyed.keeps_fold _
  · have imageTexts := at_texts_of_typed image.volume_mounts_typed
    simpa using at_texts_append defaultTexts
      (at_texts_append imageTexts (at_texts_append kubeletTexts ownTexts))

/-- The mounts of a policy are layered: the runtime's defaults, if they are part of it, then the
image's volumes, the kubelet's mounts and the container's own. -/
theorem build_mounts_layered
    {entry : Option ContainerEntry}
    {volumes : Option Volumes}
    {image : ImageConfig}
    {runtime kubelet : LaunchSpec}
    {withRuntime : Bool}
    {world : World}
    {session after : Session}
    {policy : ContainerPolicy}
    (runtimeTexts : Mounts.AtTexts runtime.mounts)
    (kubeletTexts : Mounts.AtTexts kubelet.mounts)
    (built : (build entry volumes image runtime kubelet withRuntime).run world session =
      (.ok policy, after)) :
    ∃ own, Declared.mountsOf entry volumes = .ok own ∧
      let defaults := if withRuntime then runtime.mounts else []
      let layers := [defaults, image.volumeMounts, kubelet.mounts, own]
      mergeMounts defaults own kubelet.mounts image = .ok policy.spec.mounts ∧
        policy.spec.mounts = layers.flatten.foldl Mounts.place [] ∧
        Mounts.Layered policy.spec.mounts layers := by
  obtain ⟨declared, ran, completed⟩ := build_ok_iff.mp built
  obtain ⟨args, env, mounts, -, -, merged, rfl⟩ := complete_ok_iff.mp completed
  have own := Declared.mounts_of_entry ran
  have ownTexts := Mounts.at_texts_of_typed (Declared.mounts_of_typed own)
  have defaults : (if withRuntime then runtime else {}).mounts =
      if withRuntime then runtime.mounts else [] := by split <;> rfl
  have defaultTexts : Mounts.AtTexts (if withRuntime then runtime.mounts else []) := by
    split
    · exact runtimeTexts
    · simp [Mounts.AtTexts]
  rw [defaults] at merged
  obtain ⟨same, keeps⟩ := merge_mounts_keeps defaultTexts ownTexts kubeletTexts merged
  exact ⟨declared.mounts, own, merged, same, Mounts.layered_of_keeps keeps⟩

/-- Defaults that repeat a destination, under a volume of the image and a mount of the pod. -/
def repeatedMounts : LaunchSpec where
  mounts := [{ destination := .text "/proc", type := .text "proc" },
    { destination := .text "/data", type := .text "tmpfs" },
    { destination := .text "/proc", type := .text "bind" }]

def dataImage : ImageConfig := { cmd := ["run"], volumes := ["/data", "/log"] }

def dataEntry : ContainerEntry where
  fields := [(.text "volumeMounts", .list [.object [("name", .text "v"),
    ("mountPath", .text "/data")]])]
  path := {}

theorem repeated_mounts_layered :
    ∃ policy,
      Mounts.AtTexts repeatedMounts.mounts ∧ Mounts.AtTexts ([] : List Mount) ∧
      (build (some dataEntry) (some [("v", { hostPath := "/srv" })]) dataImage repeatedMounts {}
        true).run .silent {} = (.ok policy, {}) ∧
      policy.spec.mounts.map (fun mount => (mount.destination, mount.source)) =
        [(.text "/proc", .text ""), (.text "/data", .text "/srv"),
         (.text "/log", .text (sharedContainerPath ++ "log$"))] ∧
      ∃ own, Mounts.Layered policy.spec.mounts
        [repeatedMounts.mounts, dataImage.volumeMounts, [], own] := by
  have texts : Mounts.AtTexts repeatedMounts.mounts := by simp [Mounts.AtTexts, repeatedMounts]
  have built : ∃ policy, (build (some dataEntry) (some [("v", { hostPath := "/srv" })]) dataImage
      repeatedMounts {} true).run .silent {} = (.ok policy, {}) ∧
      policy.spec.mounts.map (fun mount => (mount.destination, mount.source)) =
        [(.text "/proc", .text ""), (.text "/data", .text "/srv"),
         (.text "/log", .text (sharedContainerPath ++ "log$"))] := ⟨_, rfl, by decide⟩
  obtain ⟨policy, ran, places⟩ := built
  obtain ⟨own, -, -, -, layered⟩ := build_mounts_layered texts (by simp [Mounts.AtTexts]) ran
  exact ⟨policy, texts, by simp [Mounts.AtTexts], ran, places, own, layered⟩

end ContainerPolicy

theorem Compiler.run_runtime_rules (privileged tty : Bool) (world : World) (session : Session) :
    ∃ after, (runtimeRules privileged tty).run world session =
      (.ok (Runtime.containerRules privileged tty), after) := by
  cases privileged <;> exact ⟨_, rfl⟩

end LaunchPolicy
