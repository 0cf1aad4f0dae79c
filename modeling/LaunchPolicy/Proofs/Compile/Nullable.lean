import LaunchPolicy.Proofs.Compile.Assembly
import LaunchPolicy.Proofs.Compile.Stream
import LaunchPolicy.Proofs.Manifest.Annotatable
import LaunchPolicy.Proofs.Yaml.Loaded

/-!
Manifests in which a field is null and manifests that lack it. For most of the fields that need not
be there, both compile to the same policy or fail with the same error; the others may be missing and
must not be null.
-/

namespace LaunchPolicy

open Outcome (Agree)
open Compile (agrees_refl agrees_pure agrees_throw agrees_of_policy agrees_of_except)

/-! Runs -/

theorem Declared.of_entry_alike {entry other : ContainerEntry} (alike : entry.Alike other)
    (volumes : Option Volumes) : ofEntry entry volumes = ofEntry other volumes := by
  rw [ofEntry, ofEntry, alike.entryPoint, alike.environment]
  cases volumes with
  | none => rfl
  | some volumes => simp only [alike.mounts]

theorem Compiler.container_alike {entry other : ContainerEntry} (alike : entry.Alike other)
    (compiler : Compiler) (volumes : Volumes) (withRuntime : Bool) :
    compiler.container entry volumes withRuntime = compiler.container other volumes withRuntime := by
  rw [container, container, alike.securityContext, alike.tty, alike.image]
  simp only [ContainerPolicy.build, Declared.of_entry_alike alike]

namespace WorkloadCompiler

variable {compiler : WorkloadCompiler}

theorem policies_alike {workload other : Workload} (alike : workload.Alike other) :
    compiler.policies workload = compiler.policies other := by
  have entries := List.rel_append alike.containers alike.initContainers
  have same : List.Forall₂ (fun entry other => ∀ document,
      compiler.addContainer workload.volumes document entry =
        compiler.addContainer workload.volumes document other)
      (workload.containers ++ workload.initContainers) (other.containers ++ other.initContainers) := by
    refine entries.imp fun entry other alike document => ?_
    rw [addContainer, addContainer, alike.name, Compiler.container_alike alike]
  rw [policies, policies, Outcome.fold_m_congr same, alike.volumes]

theorem document_alike {workload other : Workload} (alike : workload.Alike other) :
    compiler.document workload = compiler.document other := by
  rw [document, document, policies_alike alike, alike.kind, Workload.title, Workload.title, alike.name]

/-- Workloads of a kind that are alike. -/
def AlikeOf (kind : WorkloadKind) (workload other : Workload) : Prop :=
  workload.kind = kind ∧ workload.Alike other

theorem of_manifest_agrees {kind : WorkloadKind} {manifest other : Value}
    (agree : Agree (AlikeOf kind) (Workload.ofDocument manifest compiler.cluster)
      (Workload.ofDocument other compiler.cluster)) :
    (compiler.ofManifest manifest).Agrees (fun made other => AlikeOf kind made.1 other.1 ∧ made.2 = other.2)
      (compiler.ofManifest other) := by
  have extracted : (Workload.extract manifest compiler.cluster).Agrees (AlikeOf kind)
      (Workload.extract other compiler.cluster) := by
    refine (agrees_of_policy agree).bind fun workload other alike => ?_
    rw [alike.2.kind, Workload.title, Workload.title, alike.2.name, alike.2.containers.length_eq,
      alike.2.initContainers.length_eq, alike.2.volumes]
    exact (agrees_refl (fun _ => rfl) _).bind fun _ _ (_ : _ = _) => agrees_pure alike
  refine extracted.bind fun workload other alike => ?_
  rw [document_alike alike.2]
  refine (agrees_refl (fun _ => rfl) _).bind fun policy otherPolicy (same : policy = otherPolicy) => ?_
  exact agrees_pure ⟨alike, same⟩

theorem compile_agrees {kind : WorkloadKind} {manifest other : Value} (index : Nat)
    (agree : Agree (AlikeOf kind) (Workload.ofDocument manifest compiler.cluster)
      (Workload.ofDocument other compiler.cluster)) :
    (compiler.compile? index manifest).Agrees
      (Option.Rel fun made other => AlikeOf kind made.1 other.1 ∧ made.2 = other.2)
      (compiler.compile? index other) := by
  refine ((of_manifest_agrees agree).map fun _ _ this => Option.Rel.some this).try_catch fun failure => ?_
  cases failure with
  | data fault => exact agrees_throw _
  | policy reason =>
      dsimp only
      split
      · exact (agrees_refl (fun _ => rfl) _).bind fun _ _ (_ : _ = _) => agrees_pure .none
      · exact agrees_throw _

/-- Documents of a kind that are read as workloads that are alike, and annotated with the same end. -/
structure ComesTo (compiler : WorkloadCompiler) (kind : WorkloadKind) (document other : Yaml.Graph) :
    Prop where
  filled : ManifestDocument.view document ≠ .null
  filledToo : ManifestDocument.view other ≠ .null
  reads : Agree (AlikeOf kind) (Workload.ofDocument (ManifestDocument.view document) compiler.cluster)
    (Workload.ofDocument (ManifestDocument.view other) compiler.cluster)
  annotates : ∀ policy, Outcome.SameEnd (document.annotate kind policy) (other.annotate kind policy)

variable {kind : WorkloadKind} {document other : Yaml.Graph}

theorem stream_document_agrees (comes : compiler.ComesTo kind document other) (index : Nat) :
    (compiler.streamDocument index document).Agrees (fun outcome same => outcome.2 = same.2)
      (compiler.streamDocument index other) := by
  rw [stream_document_eq index comes.filled, stream_document_eq index comes.filledToo]
  refine (compile_agrees index comes.reads).bind fun found foundToo this => ?_
  cases this with
  | none => exact agrees_pure rfl
  | @some made madeToo this =>
      obtain ⟨workload, policy⟩ := made
      obtain ⟨workloadToo, policyToo⟩ := madeToo
      obtain ⟨⟨kindOf, alike⟩, same⟩ := this
      obtain rfl : policy = policyToo := same
      dsimp only
      rw [← alike.kind, kindOf]
      refine (agrees_of_except ((comes.annotates policy.encoded).map_error _)).bind fun _ _ _ => ?_
      exact (agrees_refl (fun _ => rfl) _).bind fun _ _ (_ : _ = _) => agrees_pure rfl

theorem stream_agrees (comes : compiler.ComesTo kind document other) :
    (compiler.stream [document]).Agrees (fun result same => result.policies = same.policies)
      (compiler.stream [other]) := by
  have single (document : Yaml.Graph) : compiler.stream [document] = do
      let outcome ← compiler.streamDocument 0 document
      return { policies := [outcome].filterMap (·.2), documents := [outcome].map (·.1) } := by
    rw [stream, List.zipIdx_singleton, List.mapM_cons, List.mapM_nil]
    simp only [bind_assoc, pure_bind]
  rw [single, single]
  refine (stream_document_agrees comes 0).bind fun outcome same this => agrees_pure ?_
  rw [List.filterMap_cons, List.filterMap_cons, this]

end WorkloadCompiler

/-! Documents with a field that is null -/

namespace OptionalField

variable {kind : WorkloadKind} {field : OptionalField} {document : Value}

theorem holder_head_ne_kind (kind : WorkloadKind) (field : OptionalField) :
    (field.holder kind).head? ≠ some (.field "kind") := by
  cases field <;> cases kind <;> simp [holder, WorkloadKind.podSpecPath, WorkloadKind.templatePath]

theorem key_ne_kind (field : OptionalField) : field.key ≠ "kind" := by
  have options (option : ContainerOption) : option.key ≠ "kind" := by
    cases option <;> simp [ContainerOption.key]
  cases field <;> first | exact options _ | simp [key]

/-- A field that need not be there is not the one that names the kind. -/
theorem kind_with_null (field : OptionalField) (supported : WorkloadKind.ofDocument? document = some kind) :
    WorkloadKind.ofDocument? (document.withNull (field.holder kind) field.key) = some kind := by
  have same : (document.withNull (field.holder kind) field.key).get? "kind" = document.get? "kind" :=
    Value.get_change_at_apart (fun fields => by rw [Fields.get_put, if_neg (mt Text.string.inj field.key_ne_kind)])
      (holder_head_ne_kind kind field) document
  rw [← supported, WorkloadKind.ofDocument?, WorkloadKind.ofDocument?, same]

theorem kind_without (field : OptionalField) (supported : WorkloadKind.ofDocument? document = some kind) :
    WorkloadKind.ofDocument? (document.without (field.holder kind) field.key) = some kind := by
  have same : (document.without (field.holder kind) field.key).get? "kind" = document.get? "kind" :=
    Value.get_change_at_apart
      (fun fields => by rw [Fields.get_without, if_neg field.key_ne_kind]) (holder_head_ne_kind kind field)
      document
  rw [← supported, WorkloadKind.ofDocument?, WorkloadKind.ofDocument?, same]

end OptionalField

namespace WorkloadCompiler

variable {compiler : WorkloadCompiler} {kind : WorkloadKind} {field : OptionalField} {document : Value}

theorem comes_to_same (supported : WorkloadKind.ofDocument? document = some kind)
    (lenient : ¬ field.NotNull kind) {nulled lacking : Yaml.Graph} (closed : nulled.Closed)
    (closedToo : lacking.Closed)
    (isNull : ManifestDocument.view nulled = document.withNull (field.holder kind) field.key)
    (isMissing : ManifestDocument.view lacking = document.without (field.holder kind) field.key) :
    compiler.ComesTo kind nulled lacking := by
  obtain ⟨fields, view, classified⟩ :=
    WorkloadKind.of_document_eq_some_iff.mp (OptionalField.kind_with_null field supported)
  obtain ⟨others, viewToo, -⟩ :=
    WorkloadKind.of_document_eq_some_iff.mp (OptionalField.kind_without field supported)
  have alike := Value.alike_with_null_without (field.holder kind) field.key document
  rw [view, viewToo] at alike
  rw [view] at isNull
  rw [viewToo] at isMissing
  have deep : 4 ≤ manifestDepth := by decide
  refine ⟨by simp [isNull], by simp [isMissing], ?_, fun policy => ?_⟩
  · rw [isNull, isMissing]
    refine (Workload.of_fields_agree_optional classified lenient alike).imp_ok ?_
    intro workload other read same
    have readAs : Workload.ofDocument (.map fields) compiler.cluster = .ok workload := read
    have supported := WorkloadKind.of_document_eq_some_iff.mpr ⟨fields, rfl, classified⟩
    exact ⟨Option.some.inj ((Workload.of_document_kind readAs).symm.trans supported), same⟩
  · have first := Yaml.Graph.annotate_end closed deep isNull kind policy
    have second := Yaml.Graph.annotate_end closedToo deep isMissing kind policy
    exact (first.trans (Manifest.annotate_alike lenient alike)).trans second.symm

end WorkloadCompiler

/-! Fields that must not be null -/

namespace Manifest

/-- An item on the way of a path is one of the items of its list. -/
theorem item_of_resolve {v target : Value} {key : String} {index : Nat} {rest : List PathStep}
    (found : v.resolve? (.field key :: .item index :: rest) = some target) :
    ∃ item ∈ itemsOf v key, item.resolve? rest = some target := by
  rw [Value.resolve_cons, Value.step_field] at found
  obtain ⟨list, listed, found⟩ := Option.bind_eq_some_iff.mp found
  rw [Value.resolve_cons] at found
  obtain ⟨item, led, further⟩ := Option.bind_eq_some_iff.mp found
  cases list with
  | list items =>
      refine ⟨item, ?_, further⟩
      rw [itemsOf, listed]
      exact List.mem_of_getElem? led
  | _ => contradiction

theorem get_of_resolve {v target : Value} {key : String}
    (found : v.resolve? [.field key] = some target) : v.get? key = some target := by
  rw [Value.resolve_cons, Value.step_field] at found
  obtain ⟨inner, here, same⟩ := Option.bind_eq_some_iff.mp found
  exact here.trans same

/-- Null metadata are no mapping that an annotation could be set in. -/
theorem annotate_at_null {names : List String} {fields : Fields} (path : FieldPath) (policy : String)
    (found : (Value.map fields).at? (names ++ ["metadata"]) = some .null) :
    ∃ e, annotateAt policy path names fields = .error e := by
  induction names generalizing path fields with
  | nil =>
      have null : fields.get? (.text "metadata") = some .null := by
        obtain ⟨inner, here, same⟩ := Option.bind_eq_some_iff.mp found
        exact here.trans same
      rw [annotateAt, annotatePod, null]
      exact ⟨_, rfl⟩
  | cons name names ih =>
      obtain ⟨inner, here, further⟩ := Option.bind_eq_some_iff.mp found
      have led : fields.get? (.text name) = some inner := here
      rw [annotateAt, led]
      cases inner with
      | map inner =>
          obtain ⟨e, failed⟩ := ih (path.field name) further
          exact ⟨e, by simp only [failed]; rfl⟩
      | _ => exact ⟨_, rfl⟩

end Manifest

namespace ContainerEntry

variable {entry : ContainerEntry} {option : ContainerOption}

/-- An entry with a null in such a field declares no environment, or no mounts. -/
theorem declares_not_null (strict : option.NotNull)
    (null : (Value.map entry.fields).resolve? (option.holder ++ [.field option.key]) = some .null) :
    (∀ world session rules after, entry.environment.run world session ≠ (.ok rules, after)) ∨
      ∀ volumes points, entry.mounts volumes ≠ .ok points := by
  cases option with
  | value i =>
      refine .inl fun world session rules after ran => ?_
      obtain ⟨item, member, null⟩ := Manifest.item_of_resolve null
      obtain ⟨items, listed, each⟩ := environment_ok ran
      rw [Manifest.sequence_items listed] at member
      obtain ⟨rule, -, path, before, later, ranRule⟩ := Outcome.related_item each member
      have null := Manifest.get_of_resolve null
      obtain ⟨fields, name, rfl, -, ⟨value, valued, -⟩ | ⟨without, -⟩⟩ := environment_rule_form ranRule
      · exact absurd (null.symm.trans (Manifest.present_of_get valued)) (by simp)
      · have here : Fields.get? fields (.text "value") = some .null := null
        rw [Fields.contains, here] at without
        contradiction
  | mountPropagation i =>
      refine .inr fun volumes points read => ?_
      obtain ⟨item, member, null⟩ := Manifest.item_of_resolve null
      obtain ⟨items, listed, read⟩ := Outcome.bind_ok_iff.mp read
      rw [Manifest.sequence_items listed] at member
      obtain ⟨point, -, path, made⟩ := Outcome.related_item (Manifest.each_item_ok read) member
      obtain ⟨destination, mode, -, -, -, -, spread, -⟩ := mount_ok made
      have here : item.get? "mountPropagation" = some .null := Manifest.get_of_resolve null
      rw [here] at spread
      exact absurd spread (by simp)
  | _ => exact absurd strict (by simp [ContainerOption.NotNull])

end ContainerEntry

theorem Compiler.container_declares (compiler : Compiler) (entry : ContainerEntry) (volumes : Volumes)
    (withRuntime : Bool) : (compiler.container entry volumes withRuntime).Yields fun _ =>
      (∃ world session rules after, entry.environment.run world session = (.ok rules, after)) ∧
        ∃ points, entry.mounts volumes = .ok points := by
  refine Compile.yields_bind fun context => Compile.yields_bind fun tty => ?_
  refine Compile.yields_bind fun reference => Compile.yields_bind fun image => ?_
  refine Compile.yields_bind fun runtime => ?_
  intro world session policy after built
  obtain ⟨declared, ran, -⟩ := ContainerPolicy.build_ok_iff.mp built
  have own : (Declared.ofEntry entry (some volumes)).run world session = (.ok declared, after) := ran
  obtain ⟨-, environment, points⟩ := Declared.of_entry_ok own
  exact ⟨⟨world, session, declared.env, after, environment⟩, declared.mounts, points⟩

namespace WorkloadCompiler

variable {compiler : WorkloadCompiler} {kind : WorkloadKind} {field : OptionalField} {document : Value}
  {workload : Workload} {policy : PolicyDocument} {world : World} {session after : Session}

/-- A manifest is compiled from the workload that it is read as. -/
theorem of_manifest_inv {manifest : Value}
    (ran : (compiler.ofManifest manifest).run world session = (.ok (workload, policy), after)) :
    Workload.ofDocument manifest compiler.cluster = .ok workload ∧
      ∃ before, (compiler.document workload).run world before = (.ok policy, after) := by
  obtain ⟨extracted, middle, extract, further⟩ := Compile.run_bind_ok_iff.mp ran
  obtain ⟨read, first, ofPolicy, noted⟩ := Compile.run_bind_ok_iff.mp extract
  obtain ⟨made, last, compiled, finished⟩ := Compile.run_bind_ok_iff.mp further
  rw [Compile.run_note_bind] at noted
  obtain ⟨rfl, rfl⟩ : read = extracted ∧ _ = middle := by simpa using noted
  obtain ⟨⟨rfl, rfl⟩, rfl⟩ : (read = workload ∧ made = policy) ∧ last = after := by simpa using finished
  exact ⟨Outcome.map_error_ok_iff.mp (congrArg Prod.fst ofPolicy), _, compiled⟩

/-- Every entry of a compiled workload declares an environment and mounts. -/
theorem entries_declare (resolved : ∀ entry ∈ workload.entries, entry.cluster = compiler.cluster)
    (ran : (compiler.document workload).run world session = (.ok policy, after)) :
    ∀ entry ∈ workload.entries,
      (∃ world session rules after, entry.environment.run world session = (.ok rules, after)) ∧
        ∃ points, entry.mounts workload.volumes = .ok points := by
  intro entry member
  obtain ⟨each, -⟩ := (has_document_iff resolved).mp ⟨policy, congrArg Prod.fst ran⟩
  obtain ⟨-, made, compiled⟩ := each entry member
  obtain ⟨later, ran⟩ := Compile.run_of_result compiled
  exact compiler.container_declares entry workload.volumes _ _ _ made later ran

/-- A container in whose entry such a field is null is not compiled. -/
theorem container_refused {manifest : Value} {key : String} {index : Nat} {option : ContainerOption}
    (strict : option.NotNull) (list : key = "containers" ∨ key = "initContainers")
    (null : manifest.resolve? (workload.kind.podSpecPath.map .field ++
      (.field key :: .item index :: (option.holder ++ [.field option.key]))) = some .null) :
    (compiler.ofManifest manifest).run world session ≠ (.ok (workload, policy), after) := by
  intro ran
  obtain ⟨read, before, compiled⟩ := of_manifest_inv ran
  rw [Value.resolve_append, Value.resolve_fields] at null
  obtain ⟨pod, here, null⟩ := Option.bind_eq_some_iff.mp null
  obtain ⟨item, member, null⟩ := Manifest.item_of_resolve null
  have listed : item ∈ Manifest.podItems manifest workload.kind "containers" ++
      Manifest.podItems manifest workload.kind "initContainers" := by
    rw [List.mem_append, Manifest.podItems, Manifest.podItems, here]
    rcases list with rfl | rfl
    · exact .inl member
    · exact .inr member
  obtain ⟨entry, within, rfl, -⟩ := Outcome.related_item (Workload.of_document_entries read) listed
  have resolved : ∀ entry ∈ workload.entries, entry.cluster = compiler.cluster :=
    fun _ member => Workload.cluster_of_entry read member
  obtain ⟨⟨_, _, _, _, environment⟩, _, points⟩ := entries_declare resolved compiled entry within
  rcases ContainerEntry.declares_not_null strict null with noEnvironment | noMounts
  · exact noEnvironment _ _ _ _ environment
  · exact noMounts _ _ points

/-- A pod whose metadata are null is not annotated. -/
theorem metadata_refused {nulled : Yaml.Graph} {fields : Fields} (closed : nulled.Closed)
    (view : ManifestDocument.view nulled = .map fields)
    (null : (Value.map fields).resolve? (kind.templatePath.map .field ++ [.field "metadata"]) =
      some .null) (encoded : String) (annotated : Yaml.Graph) :
    nulled.annotate kind encoded ≠ .ok annotated := by
  intro done
  have names : kind.templatePath.map PathStep.field ++ [.field "metadata"] =
      (kind.templatePath ++ ["metadata"]).map .field := by simp
  rw [names, Value.resolve_fields] at null
  have deep : 4 ≤ manifestDepth := by decide
  have ends := Yaml.Graph.annotate_end closed deep view kind encoded
  obtain ⟨e, failed⟩ := Manifest.annotate_at_null {} encoded null
  rw [done, Manifest.annotate, failed] at ends
  cases ends

/-- A field that must not be null is not compiled where it is. -/
theorem stream_text_refused (supported : WorkloadKind.ofDocument? document = some kind)
    (strict : field.NotNull kind) {known : Fields}
    (holds : document.resolve? (field.holder kind) = some (.map known)) {nulled : Yaml.Graph}
    {nullText : String} (readNull : Yaml.documents world.machine nullText = .ok [nulled])
    (isNull : ManifestDocument.view nulled = document.withNull (field.holder kind) field.key)
    (result : StreamResult Yaml.Graph) :
    (compiler.streamText nullText).run world session ≠ (.ok result, after) := by
  intro ran
  rw [run_read_text readNull] at ran
  obtain ⟨outcomes, passes, -⟩ := stream_ok ran
  cases passes with
  | cons first _ =>
      obtain ⟨index, first⟩ := first
      have classified := OptionalField.kind_with_null field supported
      rw [← isNull] at classified
      obtain ⟨fields, view, -⟩ := WorkloadKind.of_document_eq_some_iff.mp classified
      have null := Value.resolve_with_null holds field.key
      rw [← isNull] at null
      rcases stream_document_ok first with ⟨-, other, -⟩ |
        ⟨workload, policy, annotated, middle, -, made, done, -⟩
      · rw [classified] at other
        contradiction
      · obtain ⟨kindOf, -⟩ := of_manifest_ok made
        obtain rfl : workload.kind = kind := Option.some.inj (kindOf.symm.trans classified)
        have done := Outcome.map_error_ok_iff.mp done
        have noMetadata (null : (ManifestDocument.view nulled).resolve?
            (workload.kind.templatePath.map .field ++ [.field "metadata"]) = some .null) : False :=
          metadata_refused (Yaml.documents_closed readNull nulled (by simp)) view (view ▸ null) _ _ done
        cases field with
        | metadata =>
            have pod : workload.kind.templatePath = [] := by rw [strict]; rfl
            exact noMetadata (by rw [pod]; exact null)
        | podMetadata => exact noMetadata null
        | container i option =>
            rw [OptionalField.holder, List.append_assoc] at null
            exact container_refused strict (.inl rfl) null made
        | initContainer i option =>
            rw [OptionalField.holder, List.append_assoc] at null
            exact container_refused strict (.inr rfl) null made
        | _ => exact strict

/-- A field that need not be there, set to null in one text and missing in the other. Unless it is one
of those that must not be null, both texts come to the same: the same policies or the same failure, with
the same questions and notes. If it is one of them, the text with the null is never compiled. -/
theorem null_means_missing_unless_refused
    {document : Value}
    {kind : WorkloadKind}
    (field : OptionalField)
    {nullText lackingText : String}
    {nulled lacking : Yaml.Graph}
    (world : World)
    (supported : WorkloadKind.ofDocument? document = some kind)
    (readNull : Yaml.documents world.machine nullText = .ok [nulled])
    (readLacking : Yaml.documents world.machine lackingText = .ok [lacking])
    (isNull : ManifestDocument.view nulled = document.withNull (field.holder kind) field.key)
    (isMissing : ManifestDocument.view lacking = document.without (field.holder kind) field.key)
    (compiler : WorkloadCompiler)
    (session : Session) :
    (¬ field.NotNull kind →
      ((compiler.streamText nullText).run world session).1.map (·.policies) =
          ((compiler.streamText lackingText).run world session).1.map (·.policies) ∧
        ((compiler.streamText nullText).run world session).2 =
          ((compiler.streamText lackingText).run world session).2) ∧
    (field.NotNull kind → ∀ known, document.resolve? (field.holder kind) = some (.map known) →
      ∃ failure, ((compiler.streamText nullText).run world session).1 = .error failure) := by
  refine ⟨fun lenient => ?_, fun strict known holds => ?_⟩
  · have closed := Yaml.documents_closed readNull nulled (by simp)
    have closedToo := Yaml.documents_closed readLacking lacking (by simp)
    have comes : compiler.ComesTo kind nulled lacking :=
      comes_to_same supported lenient closed closedToo isNull isMissing
    obtain ⟨outcome, sessions⟩ := stream_agrees comes world session
    rw [run_read_text readNull, run_read_text readLacking]
    exact ⟨outcome.map_eq fun _ _ same => same, sessions⟩
  · rcases ran : (compiler.streamText nullText).run world session with ⟨r, after⟩
    cases r with
    | error failure => exact ⟨failure, rfl⟩
    | ok result => exact absurd ran (stream_text_refused supported strict holds readNull isNull result)

/-- The only document of a text. -/
def onlyDocument (text : String) : Yaml.Graph :=
  match Yaml.documents World.silent.machine text with
  | .ok [document] => document
  | _ => ⟨#[], 0⟩

/-- A pod that says of its volumes that there are none. -/
def nullVolumesText : String := "kind: Pod\nspec:\n  volumes:\n"

def noVolumesText : String := "kind: Pod\nspec: \x7b\x7d\n"

theorem null_volumes_mean_none :
    ((({} : WorkloadCompiler).streamText nullVolumesText).run World.silent {}).1.map (·.policies) =
        ((({} : WorkloadCompiler).streamText noVolumesText).run World.silent {}).1.map (·.policies) ∧
      ((({} : WorkloadCompiler).streamText noVolumesText).run World.silent {}).1.toBool = true := by
  let document : Value := .object [("kind", .text "Pod"), ("spec", .object [])]
  have supported : WorkloadKind.ofDocument? document = some .pod := by decide +kernel
  have readNull : Yaml.documents World.silent.machine nullVolumesText = .ok [onlyDocument nullVolumesText] := by
    decide +kernel
  have readNone : Yaml.documents World.silent.machine noVolumesText = .ok [onlyDocument noVolumesText] := by decide +kernel
  have isNull : ManifestDocument.view (onlyDocument nullVolumesText) =
      document.withNull (OptionalField.volumes.holder .pod) "volumes" := by decide +kernel
  have isMissing : ManifestDocument.view (onlyDocument noVolumesText) =
      document.without (OptionalField.volumes.holder .pod) "volumes" := by decide +kernel
  have same := null_means_missing_unless_refused .volumes .silent supported readNull readNone isNull isMissing
    {} {}
  exact ⟨(same.1 id).1, by decide +kernel⟩

/-- A pod whose metadata are null is refused where one without metadata is compiled. -/
theorem null_metadata_refused :
    ((({} : WorkloadCompiler).streamText "kind: Pod\nmetadata:\nspec: \x7b\x7d\n").run World.silent {}).1.map
        (·.policies) =
      .error (.policy (PolicyError.atField (.ofFields ["metadata"]) .metadataNotMapping)) ∧
    ((({} : WorkloadCompiler).streamText "kind: Pod\nspec: \x7b\x7d\n").run World.silent {}).1.map
      (·.policies) = .ok [{}] := by
  constructor <;> decide +kernel

end WorkloadCompiler

end LaunchPolicy
