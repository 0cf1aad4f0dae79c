import LaunchPolicy.Proofs.Compile.Typed
import LaunchPolicy.Proofs.Manifest.Workload

/-!
From a volume mount of a manifest to the mount of a policy. What a container declares at a
destination goes before all other sources there, and no later step makes it writable; so volumes
that the kubelet fills are mounted for reading only.
-/

namespace LaunchPolicy

open Manifest

namespace ContainerEntry

variable {entry : ContainerEntry} {volumes : Volumes} {own : List Mount}

/-- The last mount at a destination is the one that the last item for it declares. -/
theorem mounts_last (read : entry.mounts volumes = .ok own) {destination : Text} {item : Value}
    (last : lastWith? (itemsOf (.map entry.fields) "volumeMounts") "mountPath" destination =
      some item) :
    ∃ path result, mount volumes path item = .ok result ∧
      Mounts.last? own (.text destination) = some result := by
  obtain ⟨items, listed, read⟩ := Outcome.bind_ok_iff.mp read
  rw [sequence_items listed] at last
  have placed : List.Forall₂ (fun item result => ∃ path, mount volumes path item = .ok result)
      (items.filter fun item => item.get? "mountPath" = some (.text destination))
      (own.filter fun mount => mount.destination = .text destination) := by
    refine Outcome.related_filter (each_item_ok read) fun item result ⟨path, this⟩ => ?_
    obtain ⟨destination, mode, name, volume, option, here, -, -, -, -, rfl⟩ := mount_ok this
    simp [here]
  obtain ⟨result, lastResult, path, this⟩ := Outcome.related_last placed last
  exact ⟨path, result, this, lastResult⟩

end ContainerEntry

namespace ContainerPolicy

/-- At a destination of some mounts a policy has the last of them there, and no other. -/
def KeepsMounts (own : List Mount) (policy : ContainerPolicy) : Prop :=
  ∀ destination mount, Mounts.last? own destination = some mount →
    (policy.spec.mounts.filter fun other => other.destination = destination) = [mount]

theorem complete_keeps_mounts {defaults kubelet : LaunchSpec} {image : ImageConfig}
    {declared : Declared} {policy : ContainerPolicy}
    (defaultTexts : Mounts.AtTexts defaults.mounts) (ownTexts : Mounts.AtTexts declared.mounts)
    (kubeletTexts : Mounts.AtTexts kubelet.mounts)
    (completed : complete defaults kubelet image declared = .ok policy) :
    policy.KeepsMounts declared.mounts := by
  obtain ⟨args, env, mounts, -, -, merged, rfl⟩ := complete_ok_iff.mp completed
  obtain ⟨-, keeps⟩ := merge_mounts_keeps defaultTexts ownTexts kubeletTexts merged
  intro destination mount last
  apply Keyed.filter_of_last Mount.destination keeps.distinct
  -- the container's own mounts are the last of the four lists
  have layers : [defaults.mounts, image.volumeMounts, kubelet.mounts, declared.mounts].flatten =
      (defaults.mounts ++ image.volumeMounts ++ kubelet.mounts) ++ declared.mounts := by simp
  rw [keeps.last, layers, Keyed.last_append]
  rw [Mounts.last?] at last
  rw [last, Option.some_or]

theorem build_keeps_mounts (entry : ContainerEntry) (volumes : Volumes) (image : ImageConfig)
    {runtime kubelet : LaunchSpec} (runtimeTexts : Mounts.AtTexts runtime.mounts)
    (kubeletTexts : Mounts.AtTexts kubelet.mounts) (withRuntime : Bool) :
    (build (some entry) (some volumes) image runtime kubelet withRuntime).Yields fun policy =>
      ∃ own, entry.mounts volumes = .ok own ∧ policy.KeepsMounts own := by
  intro world session policy after built
  obtain ⟨declared, ran, completed⟩ := build_ok_iff.mp built
  have own := Declared.mounts_of_entry ran
  have ownTexts := Mounts.at_texts_of_typed (Declared.mounts_of_typed own)
  refine ⟨declared.mounts, own, complete_keeps_mounts ?_ ownTexts kubeletTexts completed⟩
  split
  · exact runtimeTexts
  · simp [Mounts.AtTexts]

end ContainerPolicy

open Compile (yields_bind yields_pure yields_fold yields_of_policy)

theorem Compiler.container_keeps_mounts (compiler : Compiler) (entry : ContainerEntry)
    (volumes : Volumes) (withRuntime : Bool) :
    (compiler.container entry volumes withRuntime).Yields fun policy =>
      ∃ own, entry.mounts volumes = .ok own ∧ policy.KeepsMounts own :=
  yields_bind fun context => yields_bind fun tty => yields_bind fun _ => yields_bind fun image =>
    (runtime_rules_sound context.privileged tty).bind fun _ sound =>
      ContainerPolicy.build_keeps_mounts entry volumes image
        (Mounts.at_texts_of_typed sound.typed.mounts)
        (Mounts.at_texts_of_typed Kubelet.mounts_typed) withRuntime

namespace PolicyDocument

/-- A document has a policy of some kind under a name. -/
def Has (holds : ContainerPolicy → Prop) (name : Text) (document : PolicyDocument) : Prop :=
  ∃ policy, document.get? name = some policy ∧ holds policy

theorem get_add (document : PolicyDocument) (added : Text) (policy : ContainerPolicy)
    (name : Text) :
    (document.add added policy).get? name =
      if added = name then some policy else document.get? name := by
  rw [get?, add, insert_eq_put, Keyed.find_put]
  split <;> rfl

variable {holds : ContainerPolicy → Prop} {name added : Text} {policy : ContainerPolicy}

theorem has_add (document : PolicyDocument) (name : Text) (holdsIt : holds policy) :
    (document.add name policy).Has holds name := by
  refine ⟨policy, ?_, holdsIt⟩
  rw [get_add, if_pos rfl]

/-- Only a policy of the same name replaces one. -/
theorem Has.add {document : PolicyDocument} (has : document.Has holds name)
    (other : added ≠ name) (policy : ContainerPolicy) : (document.add added policy).Has holds name := by
  obtain ⟨kept, found, holdsIt⟩ := has
  refine ⟨kept, ?_, holdsIt⟩
  rw [get_add, if_neg other, found]

end PolicyDocument

namespace WorkloadCompiler

variable (compiler : WorkloadCompiler) {volumes : Volumes} {name : Text}

/-- An entry adds its own policy under its name. -/
theorem add_container_has (document : PolicyDocument) {entry : ContainerEntry}
    (named : Fields.get? entry.fields (.text "name") = some (.text name)) :
    (compiler.addContainer volumes document entry).Yields
      (PolicyDocument.Has (fun policy => ∃ own, entry.mounts volumes = .ok own ∧
        policy.KeepsMounts own) name) := by
  refine (yields_of_policy _).bind fun read reads => ?_
  refine (compiler.container_keeps_mounts entry volumes _).bind fun policy keeps => ?_
  refine yields_bind fun _ => yields_pure ?_
  obtain rfl : read = name := by
    simpa [present_of_get (string_ok_iff.mp reads)] using named
  exact PolicyDocument.has_add document read keeps

/-- An entry of another name leaves a policy as it is. -/
theorem add_container_leaves {document : PolicyDocument} {holds : ContainerPolicy → Prop}
    (has : document.Has holds name) {entry : ContainerEntry}
    (other : Fields.get? entry.fields (.text "name") ≠ some (.text name)) :
    (compiler.addContainer volumes document entry).Yields (PolicyDocument.Has holds name) := by
  refine (yields_of_policy _).bind fun read reads => yields_bind fun policy => ?_
  refine yields_bind fun _ => yields_pure (has.add ?_ policy)
  rintro rfl
  exact other (present_of_get (string_ok_iff.mp reads))

/-- The policy of an entry is in the document of its workload unless a later one has its name. -/
theorem policies_have {workload : Workload} {before rest : List ContainerEntry}
    {entry : ContainerEntry}
    (listed : workload.containers ++ workload.initContainers = before ++ entry :: rest)
    (named : Fields.get? entry.fields (.text "name") = some (.text name))
    (last : ∀ later ∈ rest, Fields.get? later.fields (.text "name") ≠ some (.text name))
    (apart : compiler.withRuntime = true → sandboxName ≠ name) :
    (compiler.policies workload).Yields
      (PolicyDocument.Has (fun policy => ∃ own, entry.mounts workload.volumes = .ok own ∧
        policy.KeepsMounts own) name) := by
  have added : ((before ++ entry :: rest).foldlM (compiler.addContainer workload.volumes)
      ({} : PolicyDocument)).Yields
      (PolicyDocument.Has (fun policy => ∃ own, entry.mounts workload.volumes = .ok own ∧
        policy.KeepsMounts own) name) := by
    rw [List.foldlM_append]
    refine yields_bind fun document => ?_
    rw [List.foldlM_cons]
    refine (compiler.add_container_has document named).bind fun document has => ?_
    exact yields_fold has fun document later member has =>
      compiler.add_container_leaves has (last later member)
  rw [policies, listed]
  refine added.bind fun document has => ?_
  split
  · rename_i withRuntime
    exact yields_bind fun policy => yields_pure (has.add (apart withRuntime) policy)
  · exact yields_pure has

theorem policies_keep_mounts (workload : Workload) :
    (compiler.policies workload).Yields fun document =>
      ∀ {before rest : List ContainerEntry} {entry : ContainerEntry} {name : Text},
        workload.containers ++ workload.initContainers = before ++ entry :: rest →
        Fields.get? entry.fields (.text "name") = some (.text name) →
        (∀ later ∈ rest, Fields.get? later.fields (.text "name") ≠ some (.text name)) →
        (compiler.withRuntime = true → sandboxName ≠ name) →
        document.Has (fun policy => ∃ own, entry.mounts workload.volumes = .ok own ∧
          policy.KeepsMounts own) name := by
  intro world session document after ran before rest entry name listed named last apart
  exact compiler.policies_have listed named last apart world session document after ran

/-- The mount of a policy for a volume mount of the manifest: there is one at the destination, and
it may be written to unless the kubelet manages the volume or the volume mount says otherwise. -/
theorem managed_mounts_read_only
    {compiler : WorkloadCompiler}
    {manifest container item : Value}
    {workload : Workload}
    {document : PolicyDocument}
    {world : World}
    {session after : Session}
    {before rest : List Value}
    {name destination : Text}
    (compiled : (compiler.ofManifest manifest).run world session = (.ok (workload, document), after))
    (listed : podItems manifest workload.kind "containers" ++
      podItems manifest workload.kind "initContainers" = before ++ container :: rest)
    (named : container.get? "name" = some (.text name))
    (last : ∀ later ∈ rest, later.get? "name" ≠ some (.text name))
    (apart : compiler.withRuntime = true → sandboxName ≠ name)
    (mounted : lastWith? (itemsOf container "volumeMounts") "mountPath" destination = some item) :
    ∃ policy volume declaration mode option mount,
      document.get? name = some policy ∧
      item.get? "name" = some (.text volume) ∧
      lastWith? (podItems manifest workload.kind "volumes") "name" volume = some declaration ∧
      (item.get? "mountPropagation").getD (.text "None") = .text mode ∧
      ContainerEntry.propagationOption? mode = some option ∧
      (policy.spec.mounts.filter fun mount => mount.destination = .text destination) = [mount] ∧
      mount.options = ([.string "rbind", .string option,
        if Volume.Managed declaration ∨ item.get? "readOnly" = some (.bool true) then "ro" else "rw"] :
          List Text) ∧
      (Volume.Managed declaration → mount.type = .text "bind") := by
  obtain ⟨read, keeps⟩ := of_manifest_yields (fun workload _ => compiler.policies_keep_mounts workload)
    world session _ after compiled
  have entries := Workload.of_document_entries read
  rw [listed] at entries
  obtain ⟨first, others, split, -, entries⟩ := Outcome.related_append entries
  obtain ⟨entry, later, ⟨rfl, -⟩, laterItems, rfl⟩ := List.forall₂_cons_left_iff.mp entries
  have lastEntry : ∀ other ∈ later, Fields.get? other.fields (.text "name") ≠ some (.text name) := by
    intro other member
    obtain ⟨item, within, rfl, -⟩ := Outcome.related_result laterItems member
    exact last _ within
  -- the entry's own mounts are what its policy has at their destinations
  obtain ⟨policy, found, own, declared, keepsOwn⟩ := keeps split named lastEntry apart
  obtain ⟨path, mount, made, lastMount⟩ := ContainerEntry.mounts_last declared mounted
  obtain ⟨destination, mode, volumeName, volume, option, -, spread, known, volumeNamed, stored, rfl⟩ :=
    ContainerEntry.mount_ok made
  obtain ⟨fields, lastDeclaration, rfl⟩ := Workload.of_document_volumes read stored
  obtain ⟨readOnly, local_⟩ := Volume.of_fields_managed fields
  refine ⟨policy, volumeName, .map fields, mode, option, _, found, volumeNamed, lastDeclaration,
    spread, known, keepsOwn _ _ lastMount, ?_, ?_⟩
  · simp only [readOnly]
  · intro managed
    simp [local_ managed]

/-- A volume mount that asks to write to a volume. -/
def keysMount : Value :=
  .object [("name", .text "keys"), ("mountPath", .text "/sys"), ("readOnly", .bool false)]

def privilegedContainer : Value :=
  .object [("name", .text "app"), ("image", .text "app"),
    ("securityContext", .object [("privileged", .bool true)]), ("volumeMounts", .list [keysMount])]

def keysSecret : Value := .object [("name", .text "keys"), ("secret", .map [])]

/-- A secret that had been declared as an empty directory, mounted where the runtime mounts something
of its own that privileged containers may write to. -/
def secretManifest : Value :=
  .object [("kind", .text "Pod"), ("spec", .object [
    ("volumes", .list [.object [("name", .text "keys"), ("emptyDir", .map [])], keysSecret]),
    ("containers", .list [privilegedContainer])])]

theorem secret_stays_read_only :
    ∃ workload document after policy mount,
      ((ofSettings { withRuntime := true }).ofManifest secretManifest).run .shell {} =
        (.ok (workload, document), after) ∧
      document.get? "app" = some policy ∧
      (policy.spec.mounts.filter fun mount => mount.destination = .text "/sys") = [mount] ∧
      mount.options = (["rbind", "rprivate", "ro"] : List Text) ∧ mount.type = .text "bind" := by
  have succeeds : (((ofSettings { withRuntime := true }).ofManifest secretManifest).run .shell
      {}).1.map (·.1.kind) = .ok .pod := by decide +kernel
  obtain ⟨⟨workload, document⟩, made, kind⟩ := Outcome.map_ok_iff.mp succeeds
  obtain ⟨after, ran⟩ := Compile.run_of_result made
  have listed : podItems secretManifest workload.kind "containers" ++
      podItems secretManifest workload.kind "initContainers" = [] ++ privilegedContainer :: [] := by
    rw [kind]
    decide +kernel
  have mounted : lastWith? (itemsOf privilegedContainer "volumeMounts") "mountPath" "/sys" =
      some keysMount := by decide +kernel
  have secret : lastWith? (podItems secretManifest workload.kind "volumes") "name" "keys" =
      some keysSecret := by
    rw [kind]
    decide +kernel
  have managed : Volume.Managed keysSecret := by decide +kernel
  have appNamed : privilegedContainer.get? "name" = some (.text "app") := by decide +kernel
  have keysNamed : keysMount.get? "name" = some (.text "keys") := by decide +kernel
  have silent : keysMount.get? "mountPropagation" = none := by decide +kernel
  obtain ⟨policy, volume, declaration, mode, option, mount, found, named, declared, spread, known,
    sole, options, type⟩ := managed_mounts_read_only ran listed appNamed (by simp)
      (fun _ => by decide) mounted
  obtain rfl : "keys" = volume := by simpa [keysNamed] using named
  obtain rfl : keysSecret = declaration := Option.some.inj (secret.symm.trans declared)
  obtain rfl : "None" = mode := by simpa [silent] using spread
  obtain rfl : "rprivate" = option := Option.some.inj known
  rw [if_pos (.inl managed)] at options
  exact ⟨workload, document, after, policy, mount, ran, found, sole, options, type managed⟩

end WorkloadCompiler

end LaunchPolicy
