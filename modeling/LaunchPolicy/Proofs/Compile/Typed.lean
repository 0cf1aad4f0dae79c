import LaunchPolicy.Compile.Stream
import LaunchPolicy.Proofs.Compile.Container
import LaunchPolicy.Proofs.Policy.Transport

/-!
Every compiled document has fields of their declared types, a name for each of its containers,
and the root user throughout.
-/

namespace LaunchPolicy

/-- Rules that a policy may be built on. -/
structure LaunchSpec.Sound (spec : LaunchSpec) : Prop where
  typed : spec.Typed
  root : spec.process.user = {}

theorem Env.merge_values_typed {rules overrides env : List Value}
    (merged : mergeValues rules overrides = .ok env) : ∀ rule ∈ env, rule.IsText := by
  rw [mergeValues] at merged
  split at merged
  · contradiction
  · split at merged
    · contradiction
    · split at merged
      · contradiction
      · obtain rfl := Except.ok.inj merged
        simp

theorem Mount.adjust_privileged_typed {mount : Mount} (typed : mount.Typed) :
    mount.adjustPrivileged.Typed := by
  rw [adjustPrivileged]
  split
  · exact ⟨typed.destination, typed.source, typed.type⟩
  · exact typed

namespace Runtime

theorem rules_sound (env : List Text) {mounts : List Mount}
    (typed : ∀ mount ∈ mounts, mount.Typed) (privileged tty : Bool) :
    (rules env mounts privileged tty).Sound := by
  have placed : ∀ mount ∈ (rules env mounts privileged tty).mounts, mount.Typed := by
    intro mount member
    rw [rules] at member
    split at member
    · obtain ⟨original, listed, rfl⟩ := List.mem_map.mp member
      exact Mount.adjust_privileged_typed (typed original listed)
    · exact typed mount member
  exact ⟨⟨⟨_, rfl⟩, ⟨⟨_, rfl⟩, by simp [rules], by simp [rules]⟩, placed⟩, rfl⟩

theorem container_rules_sound (privileged tty : Bool) : (containerRules privileged tty).Sound :=
  rules_sound _ (by decide) privileged tty

theorem sandbox_rules_sound (privileged tty : Bool) : (sandboxRules privileged tty).Sound :=
  rules_sound _ (by decide) privileged tty

end Runtime

theorem LaunchSpec.empty_sound : ({} : LaunchSpec).Sound where
  typed := ⟨⟨_, rfl⟩, ⟨⟨_, rfl⟩, by simp, by simp⟩, by simp⟩
  root := rfl

theorem Kubelet.mounts_typed : ∀ mount ∈ mounts, mount.Typed := by decide

namespace ContainerPolicy

/-- What is known of every compiled policy. -/
structure Sound (policy : ContainerPolicy) : Prop where
  typed : policy.Typed
  root : policy.spec.process.user = {}

theorem complete_sound {defaults kubelet : LaunchSpec} {image : ImageConfig} {declared : Declared}
    {policy : ContainerPolicy} (sound : defaults.Sound)
    (ownTyped : ∀ mount ∈ declared.mounts, mount.Typed)
    (kubeletTyped : ∀ mount ∈ kubelet.mounts, mount.Typed)
    (completed : complete defaults kubelet image declared = .ok policy) : policy.Sound := by
  obtain ⟨args, env, mounts, -, mergedEnv, mergedMounts, rfl⟩ := complete_ok_iff.mp completed
  obtain ⟨-, keeps⟩ := merge_mounts_keeps (Mounts.at_texts_of_typed sound.typed.mounts)
    (Mounts.at_texts_of_typed ownTyped) (Mounts.at_texts_of_typed kubeletTyped) mergedMounts
  have envTyped : ∀ rule ∈ env, rule.IsText := by
    obtain ⟨lower, -, mergedEnv⟩ := Outcome.bind_ok_iff.mp mergedEnv
    obtain ⟨middle, -, mergedEnv⟩ := Outcome.bind_ok_iff.mp mergedEnv
    exact Env.merge_values_typed mergedEnv
  have cwdTyped : (if EntryPoint.resolveCwd declared.entryPoint.workingDir image = "" then
      defaults.process.cwd
      else .text (EntryPoint.resolveCwd declared.entryPoint.workingDir image)).IsText := by
    split
    · exact sound.typed.process.cwd
    · exact Value.text_is_text _
  have mountsTyped : ∀ mount ∈ mounts, mount.Typed := by
    intro mount member
    obtain ⟨layer, listed, within⟩ := List.mem_flatten.mp (keeps.subset member)
    simp only [List.mem_cons, List.not_mem_nil, or_false] at listed
    rcases listed with rfl | rfl | rfl | rfl
    · exact sound.typed.mounts mount within
    · exact image.volume_mounts_typed mount within
    · exact kubeletTyped mount within
    · exact ownTyped mount within
  exact ⟨⟨⟨sound.typed.version, ⟨cwdTyped, by simp, envTyped⟩, mountsTyped⟩, by simp⟩, sound.root⟩

theorem build_sound (entry : Option ContainerEntry) (volumes : Option Volumes) (image : ImageConfig)
    {runtime kubelet : LaunchSpec} (sound : runtime.Sound)
    (kubeletTyped : ∀ mount ∈ kubelet.mounts, mount.Typed) (withRuntime : Bool) :
    (build entry volumes image runtime kubelet withRuntime).Yields Sound := by
  intro world session policy after built
  obtain ⟨declared, ran, completed⟩ := build_ok_iff.mp built
  have own := Declared.mounts_of_typed (Declared.mounts_of_entry ran)
  refine complete_sound ?_ own kubeletTyped completed
  split
  · exact sound
  · exact LaunchSpec.empty_sound

end ContainerPolicy

namespace Compiler

theorem runtime_rules_sound (privileged tty : Bool) :
    (runtimeRules privileged tty).Yields LaunchSpec.Sound := by
  intro world session runtime after ran
  obtain ⟨other, same⟩ := run_runtime_rules privileged tty world session
  obtain rfl := Except.ok.inj (congrArg Prod.fst (same.symm.trans ran))
  exact Runtime.container_rules_sound privileged tty

open Compile (yields_bind) in
theorem container_sound (compiler : Compiler) (entry : ContainerEntry) (volumes : Volumes)
    (withRuntime : Bool) :
    (compiler.container entry volumes withRuntime).Yields ContainerPolicy.Sound :=
  yields_bind fun context => yields_bind fun tty => yields_bind fun _ => yields_bind fun image =>
    (runtime_rules_sound context.privileged tty).bind fun _ sound =>
      ContainerPolicy.build_sound _ _ image sound Kubelet.mounts_typed withRuntime

open Compile (yields_bind) in
theorem sandbox_sound (compiler : Compiler) : compiler.sandbox.Yields ContainerPolicy.Sound :=
  yields_bind fun _ => yields_bind fun image =>
    ContainerPolicy.build_sound none none image (Runtime.sandbox_rules_sound false false)
      (by simp [Kubelet.sandboxRules]) true

end Compiler

namespace PolicyDocument

/-- What is known of every compiled document. -/
structure Sound (document : PolicyDocument) : Prop where
  version : document.version.IsText
  distinct : document.names.Nodup
  policies : ∀ entry ∈ document.containers, entry.2.Sound

theorem Sound.typed {document : PolicyDocument} (sound : document.Sound) : document.Typed :=
  ⟨sound.version, sound.distinct, fun entry member => (sound.policies entry member).typed⟩

theorem Sound.has_numerals {document : PolicyDocument} (sound : document.Sound) :
    document.HasNumerals := by
  intro entry member
  rw [User.HasNumerals, (sound.policies entry member).root]
  exact ⟨Json.has_numeral_zero, Json.has_numeral_zero⟩

theorem insert_eq_put (containers : List (Text × ContainerPolicy)) (name : Text)
    (policy : ContainerPolicy) :
    insert containers name policy = Keyed.put Prod.fst containers (name, policy) := by
  induction containers with
  | nil => rfl
  | cons entry rest ih =>
      rw [insert, Keyed.put, ih]
      split
      · rename_i same
        rw [same]
      · rfl

theorem Sound.add {document : PolicyDocument} (sound : document.Sound) (name : Text)
    {policy : ContainerPolicy} (policySound : policy.Sound) : (document.add name policy).Sound where
  version := sound.version
  distinct := by
    rw [names, PolicyDocument.add, insert_eq_put, Keyed.keys_put]
    split
    · exact sound.distinct
    · rename_i new
      exact List.nodup_append.mpr ⟨sound.distinct, by simp, fun a member b last same =>
        new (List.mem_singleton.mp last ▸ same ▸ member)⟩
  policies := by
    intro entry member
    rw [PolicyDocument.add, insert_eq_put] at member
    rcases Keyed.mem_put _ member with rfl | member
    · exact policySound
    · exact sound.policies entry member

theorem empty_sound : ({} : PolicyDocument).Sound := ⟨⟨_, rfl⟩, by simp [names], by simp⟩

end PolicyDocument

namespace WorkloadCompiler

open Compile (yields_bind yields_pure yields_throw yields_fold)

/-- What the empty document has and each policy that is added keeps, the policies of a workload have. -/
theorem policies_yield {compiler : WorkloadCompiler} {holds : PolicyDocument → Prop}
    {eachPolicy : ContainerPolicy → Prop} (empty : holds {})
    (add : ∀ document name policy, holds document → eachPolicy policy → holds (document.add name policy))
    (container : ∀ entry volumes withRuntime,
      (compiler.container entry volumes withRuntime).Yields eachPolicy)
    (sandbox : compiler.sandbox.Yields eachPolicy) (workload : Workload) :
    (compiler.policies workload).Yields holds := by
  refine (yields_fold empty fun document entry _ holdsIt => ?_).bind fun document holdsIt => ?_
  · refine yields_bind fun name => (container entry _ _).bind fun policy this => ?_
    exact yields_bind fun _ => yields_pure (add document name policy holdsIt this)
  · split
    · exact sandbox.bind fun policy this => yields_pure (add document sandboxName policy holdsIt this)
    · exact yields_pure holdsIt

theorem policies_sound (compiler : WorkloadCompiler) (workload : Workload) :
    (compiler.policies workload).Yields PolicyDocument.Sound :=
  policies_yield PolicyDocument.empty_sound (fun _ name _ sound => sound.add name)
    compiler.container_sound compiler.sandbox_sound workload

/-- A document is what its policies are, if they are compiled at all. -/
theorem document_yields {compiler : WorkloadCompiler} {workload : Workload}
    {holds : PolicyDocument → Prop} (each : (compiler.policies workload).Yields holds) :
    (compiler.document workload).Yields holds := by
  refine yields_bind fun _ => Compile.Yields.bind ?_ fun document holdsIt =>
    yields_bind fun _ => yields_pure holdsIt
  apply each.try_catch
  intro failure
  cases failure with
  | policy reason => exact yields_bind fun _ => yields_throw _
  | data fault => exact yields_throw _

theorem of_manifest_yields {compiler : WorkloadCompiler} {manifest : Value}
    {holds : Workload → PolicyDocument → Prop}
    (each : ∀ workload, Workload.ofDocument manifest compiler.cluster = .ok workload →
      (compiler.policies workload).Yields (holds workload)) :
    (compiler.ofManifest manifest).Yields fun made =>
      Workload.ofDocument manifest compiler.cluster = .ok made.1 ∧ holds made.1 made.2 := by
  have extracts : (Workload.extract manifest compiler.cluster).Yields
      fun workload => Workload.ofDocument manifest compiler.cluster = .ok workload :=
    (Compile.yields_of_policy _).bind fun workload read => yields_bind fun _ => yields_pure read
  exact extracts.bind fun workload read =>
    (document_yields (each workload read)).bind fun document holdsIt => yields_pure ⟨read, holdsIt⟩

section

variable {compiler : WorkloadCompiler} {holds : PolicyDocument → Prop}
  (each : ∀ workload, (compiler.policies workload).Yields holds)

include each

theorem compile_yields (index : Nat) (manifest : Value) :
    (compiler.compile? index manifest).Yields fun found => ∀ made ∈ found, holds made.2 := by
  rw [compile?, ← bind_pure_comp]
  apply Compile.Yields.try_catch
  · refine (of_manifest_yields fun workload _ => each workload).bind fun made both => yields_pure ?_
    simpa using both.2
  · intro failure
    cases failure with
    | data fault => exact yields_throw _
    | policy reason =>
        dsimp only
        split
        · exact yields_bind fun _ => yields_pure (by simp)
        · exact yields_throw _

theorem stream_document_yields {D : Type} [ManifestDocument D] (index : Nat) (document : D) :
    (compiler.streamDocument index document).Yields fun outcome => ∀ policy ∈ outcome.2, holds policy := by
  rw [streamDocument]
  split
  · exact yields_pure (by simp)
  · refine (compile_yields each index _).bind fun found all => ?_
    cases found with
    | none => exact yields_pure (by simp)
    | some made =>
        refine yields_bind fun machine => yields_bind fun encoded => yields_bind fun _ =>
          yields_bind fun _ => yields_pure ?_
        simpa using all made rfl

/-- What the policies of every workload have, the policies of a stream have. -/
theorem stream_yields {D : Type} [ManifestDocument D] (documents : List D) :
    (compiler.stream documents).Yields fun result => ∀ policy ∈ result.policies, holds policy := by
  intro world session result after ran
  obtain ⟨outcomes, middle, compiled, ran⟩ := Compile.run_bind_ok_iff.mp ran
  obtain ⟨rfl, -⟩ : _ = result ∧ middle = after := by simpa using ran
  intro policy member
  obtain ⟨outcome, listed, same⟩ := List.mem_filterMap.mp member
  obtain ⟨⟨document, index⟩, -, before, later, this⟩ :=
    Outcome.related_result (Compile.run_map_m_ok compiled) listed
  exact stream_document_yields each index document world before outcome later this policy same

end

theorem run_stream_text (compiler : WorkloadCompiler) (text : String) (world : World) (session : Session) :
    (compiler.streamText text).run world session =
      (Compile.ofExcept (readStream world.machine text) >>= compiler.stream).run world session := by
  rw [streamText, Compile.run_machine_bind]

theorem run_read_text {compiler : WorkloadCompiler} {text : String} {world : World} {documents : List Yaml.Graph}
    (read : Yaml.documents world.machine text = .ok documents) (session : Session) :
    (compiler.streamText text).run world session = (compiler.stream documents).run world session := by
  rw [run_stream_text, readStream, read, Compile.run_bind, Compile.run_of_except]

/-- A compiled policy can be written, so a document of a supported kind gets its text. -/
theorem stream_document_eq {compiler : WorkloadCompiler} {D : Type} [ManifestDocument D] {document : D}
    (index : Nat) (filled : ManifestDocument.view document ≠ .null) :
    compiler.streamDocument index document =
      compiler.compile? index (ManifestDocument.view document) >>= fun
        | none => pure (document, none)
        | some (workload, policy) => do
            let annotated ←
              Compile.ofExcept (ManifestDocument.annotate workload.kind policy.encoded document)
            Compile.note (.annotated workload.kind.name policy.encoded.length)
            return (annotated, some policy) := by
  rw [streamDocument]
  split
  · rename_i empty
    exact absurd empty filled
  · refine (compile_yields compiler.policies_sound index _).bind_congr fun found sound => ?_
    cases found with
    | none => rfl
    | some made =>
        have sound := sound made rfl
        funext world
        change (Compile.ofFault (made.2.toBase64 world.machine) >>= _) world = _
        rw [sound.typed.to_base64 world.machine sound.has_numerals]
        rfl

end WorkloadCompiler

end LaunchPolicy
