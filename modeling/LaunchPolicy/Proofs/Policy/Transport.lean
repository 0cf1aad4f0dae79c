import LaunchPolicy.Proofs.Json.RoundTrip
import LaunchPolicy.Proofs.Outcome
import LaunchPolicy.Proofs.Policy.Fields
import LaunchPolicy.Proofs.Policy.Typed
import LaunchPolicy.Proofs.Text.Base64

/-!
Documents travel without loss. A document whose fields have their declared types is written, and read back
from its text, in JSON or in base64, as long as the numerals of its users are not too long; otherwise it is
not written.
-/

namespace LaunchPolicy

namespace Value

variable {kind : Scalar → Prop}

theorem IsText.consists (texts : ∀ s, kind (.text s)) {v : Value} (isText : v.IsText) :
    v.Consists kind := by
  obtain ⟨s, rfl⟩ := isText
  exact .scalar (texts s)

end Value

section Trees

variable {kind : Scalar → Prop}

variable (texts : ∀ s, kind (.text s)) (truths : ∀ b, kind (.bool b))

include texts

theorem User.consists_iff (user : User) :
    user.toValue.Consists kind ↔ kind (.int user.uid) ∧ kind (.int user.gid) := by
  simp [User.toValue, Value.consists_object_iff, Value.consists_scalar_iff, texts]

theorem Mount.Typed.consists {mount : Mount} (typed : mount.Typed) :
    mount.toValue.Consists kind := by
  simp [Mount.toValue, Value.consists_object_iff, typed.destination.consists texts,
    typed.source.consists texts, typed.type.consists texts, Value.consists_texts_iff, texts]

theorem Custom.consists {custom : Custom} (layers : ∀ layer ∈ custom.layers, layer.IsText) :
    custom.toValue.Consists kind := by
  rw [Custom.toValue, Value.consists_object_iff]
  split
  · simp
  · simpa [Value.consists_list_iff, texts] using fun layer member => (layers layer member).consists texts

include truths

/-- Of the scalars of a process, only the identities of its user are neither texts nor truths. -/
theorem ProcessSpec.Typed.consists_iff {process : ProcessSpec} (typed : process.Typed) :
    process.toValue.Consists kind ↔ process.user.toValue.Consists kind := by
  have args : (Value.list process.args).Consists kind :=
    .list fun arg member => (typed.args arg member).consists texts
  have env : (Value.list process.env).Consists kind :=
    .list fun rule member => (typed.env rule member).consists texts
  have cwd := typed.cwd.consists texts
  rw [ProcessSpec.toValue, Value.consists_object_iff]
  split <;> simp [args, env, cwd, Value.consists_scalar_iff, texts, truths]

theorem ContainerPolicy.Typed.consists_iff {policy : ContainerPolicy}
    (typed : policy.Typed) :
    policy.toValue.Consists kind ↔ policy.spec.process.user.toValue.Consists kind := by
  have mounts : (Value.list (policy.spec.mounts.map Mount.toValue)).Consists kind := by
    refine .list fun item member => ?_
    obtain ⟨mount, within, rfl⟩ := List.mem_map.mp member
    exact (typed.spec.mounts mount within).consists texts
  simp [ContainerPolicy.toValue, LaunchSpec.toValue, Value.consists_object_iff, mounts,
    typed.spec.version.consists texts, typed.spec.process.consists_iff texts truths,
    Custom.consists texts typed.layers, texts]

theorem PolicyDocument.Typed.consists_iff {document : PolicyDocument}
    (typed : document.Typed) :
    document.toValue.Consists kind ↔ ∀ entry ∈ document.containers,
      kind (.int entry.2.spec.process.user.uid) ∧ kind (.int entry.2.spec.process.user.gid) := by
  have names : ((document.containers.map fun entry => (entry.1, entry.2.toValue)).map
      (·.1)).Nodup := by
    simpa [PolicyDocument.names, Function.comp_def] using typed.distinct
  simp only [PolicyDocument.toValue, Value.consists_object_iff, List.forall_mem_cons,
    typed.version.consists texts, names, List.forall_mem_map, texts]
  simp only [List.map_cons, List.map_nil, List.not_mem_nil, false_implies, implies_true,
    and_true, true_and]
  constructor
  · rintro ⟨-, each⟩ entry member
    have policy := each entry member
    rwa [(typed.policies entry member).consists_iff texts truths, User.consists_iff texts] at policy
  · intro each
    refine ⟨by decide, fun entry member => ?_⟩
    rw [(typed.policies entry member).consists_iff texts truths, User.consists_iff texts]
    exact each entry member

end Trees

/-! Documents with their declared types have few levels. -/

section Levels

theorem Value.IsText.depth_le {v : Value} (isText : v.IsText) (bound : Nat) : v.depth ≤ bound := by
  obtain ⟨s, rfl⟩ := isText
  exact Value.scalar_depth_le _ bound

theorem Mount.Typed.depth_le {mount : Mount} (typed : mount.Typed) : mount.toValue.depth ≤ 2 := by
  have options : (Value.texts mount.options).depth ≤ 1 :=
    Value.list_depth_le_succ_iff.mpr (List.forall_mem_map.mpr fun option _ => Value.scalar_depth_le _ 0)
  rw [Mount.toValue, Value.object_depth_le_succ_iff]
  simpa using ⟨typed.destination.depth_le 1, typed.source.depth_le 1, typed.type.depth_le 1, options⟩

theorem ProcessSpec.Typed.depth_le {process : ProcessSpec} (typed : process.Typed) :
    process.toValue.depth ≤ 2 := by
  have user : process.user.toValue.depth ≤ 1 := by
    rw [User.toValue, Value.object_depth_le_succ_iff]
    simpa using ⟨rfl, rfl⟩
  have args : (Value.list process.args).depth ≤ 1 :=
    Value.list_depth_le_succ_iff.mpr fun arg member => (typed.args arg member).depth_le 0
  have env : (Value.list process.env).depth ≤ 1 :=
    Value.list_depth_le_succ_iff.mpr fun rule member => (typed.env rule member).depth_le 0
  rw [ProcessSpec.toValue, Value.object_depth_le_succ_iff]
  have terminal := Value.scalar_depth_le (.bool true) 1
  split <;> simp [user, args, env, typed.cwd.depth_le 1, terminal]

theorem ContainerPolicy.Typed.depth_le {policy : ContainerPolicy} (typed : policy.Typed) :
    policy.toValue.depth ≤ 5 := by
  have mounts : (Value.list (policy.spec.mounts.map Mount.toValue)).depth ≤ 3 :=
    Value.list_depth_le_succ_iff.mpr (List.forall_mem_map.mpr fun mount member =>
      (typed.spec.mounts mount member).depth_le)
  have spec : policy.spec.toValue.depth ≤ 4 := by
    rw [LaunchSpec.toValue, Value.object_depth_le_succ_iff]
    simpa using ⟨typed.spec.version.depth_le 3,
      Nat.le_trans typed.spec.process.depth_le (by decide), mounts⟩
  have custom : policy.custom.toValue.depth ≤ 4 := by
    rw [Custom.toValue, Value.object_depth_le_succ_iff]
    split
    · simp
    · simpa [Value.list_depth_le_succ_iff] using fun layer member => (typed.layers layer member).depth_le 2
  rw [ContainerPolicy.toValue, Value.object_depth_le_succ_iff]
  simpa using ⟨spec, custom⟩

theorem PolicyDocument.Typed.depth_le {document : PolicyDocument} (typed : document.Typed) :
    document.toValue.depth ≤ 7 := by
  rw [PolicyDocument.toValue, Value.object_depth_le_succ_iff]
  have containers : (Value.object (document.containers.map fun entry =>
      (entry.1, entry.2.toValue))).depth ≤ 6 :=
    Value.object_depth_le_succ_iff.mpr (List.forall_mem_map.mpr fun entry member =>
      (typed.policies entry member).depth_le)
  simpa using ⟨typed.version.depth_le 6, containers⟩

end Levels

namespace PolicyDocument

theorem Typed.formed {document : PolicyDocument} (typed : document.Typed) :
    document.toValue.Consists Scalar.Formed :=
  (typed.consists_iff (fun _ => trivial) (fun _ => trivial)).mpr fun _ _ => ⟨trivial, trivial⟩

theorem Typed.writable_iff {document : PolicyDocument} (typed : document.Typed) :
    document.toValue.Consists Json.Writable ↔ document.HasNumerals :=
  typed.consists_iff (fun _ => trivial) (fun _ => trivial)

/-- No text of the document has halves that stand like a pair. Strings have no halves at all. -/
def Unjoined (document : PolicyDocument) : Prop := document.toValue.Consists Json.Unjoined

theorem Typed.legible {document : PolicyDocument} (typed : document.Typed) (numerals : document.HasNumerals)
    (unjoined : document.Unjoined) : document.toValue.Consists Json.Legible :=
  (typed.writable_iff.mpr numerals).and unjoined

theorem Typed.to_json {document : PolicyDocument} (typed : document.Typed) (machine : Machine)
    (numerals : document.HasNumerals) (layout : Json.Layout) :
    document.toJson machine layout = .ok (Json.render layout document.toValue) :=
  Json.write_writable layout (typed.writable_iff.mpr numerals)
    (Nat.le_trans typed.depth_le (Nat.le_trans (by decide) machine.follows.2))

theorem Typed.to_json_refused {document : PolicyDocument} (typed : document.Typed) (machine : Machine)
    (numerals : ¬ document.HasNumerals) (layout : Json.Layout) :
    document.toJson machine layout = .error .badValue :=
  Json.write_unwritable layout typed.formed (numerals ∘ typed.writable_iff.mp)
    (Nat.le_trans typed.depth_le (Nat.le_trans (by decide) machine.follows.2))

/-- What is written of a document in any layout is read as the document. -/
theorem Typed.of_json {machine : Machine} {document : PolicyDocument} (typed : document.Typed)
    (unjoined : document.Unjoined) {layout : Json.Layout} (blank : layout.IsBlank) {text : String}
    (written : document.toJson machine layout = .ok text) :
    ofJson machine text = .ok document := by
  by_cases numerals : document.HasNumerals
  · rw [typed.to_json machine numerals] at written
    obtain rfl := Except.ok.inj written
    rw [ofJson, Json.read_render blank (typed.legible numerals unjoined)
      (Nat.le_trans typed.depth_le (Nat.le_trans (by decide) machine.follows.1))]
    exact document.of_value_to_value
  · rw [typed.to_json_refused machine numerals] at written
    contradiction

/-- The JSON text of a document that can be written. -/
def rendered (document : PolicyDocument) : String := Json.render (.spaces 2) document.toValue

/-- The base64 text of a document that can be written. -/
def encoded (document : PolicyDocument) : String :=
  String.ofList (Text.Base64.encode document.rendered.toUTF8.toList)

theorem Typed.text {document : PolicyDocument} (typed : document.Typed) (machine : Machine)
    (numerals : document.HasNumerals) : document.text machine = .ok document.rendered :=
  typed.to_json machine numerals (.spaces 2)

theorem Typed.to_base64 {document : PolicyDocument} (typed : document.Typed) (machine : Machine)
    (numerals : document.HasNumerals) : document.toBase64 machine = .ok document.encoded := by
  rw [toBase64, typed.text machine numerals]
  rfl

/-- Base64 carries every JSON text unchanged. -/
theorem of_base64_to_base64 {machine : Machine} {document : PolicyDocument} {encoded : String}
    (written : document.toBase64 machine = .ok encoded) :
    ∃ text, document.text machine = .ok text ∧ ofBase64 machine encoded = ofJson machine text := by
  obtain ⟨text, json, encodes⟩ := Outcome.bind_ok_iff.mp written
  obtain rfl := Except.ok.inj encodes
  refine ⟨text, json, ?_⟩
  simp only [ofBase64, String.toList_ofList, Text.Base64.decode_encode, Text.Utf8.from_octets_of_text]

theorem Typed.of_base64 {machine : Machine} {document : PolicyDocument} (typed : document.Typed)
    (unjoined : document.Unjoined) {encoded : String} (written : document.toBase64 machine = .ok encoded) :
    ofBase64 machine encoded = .ok document := by
  obtain ⟨text, json, same⟩ := of_base64_to_base64 written
  rw [same]
  exact typed.of_json unjoined (Json.spaces_is_blank 2) json

/-- A document is written and read back from its base64 text; no other document has that text, or a JSON
text in common with it in any layouts; and what is read back has the same texts. -/
theorem transport_lossless
    (machine : Machine)
    (document : PolicyDocument)
    (typed : document.Typed)
    (numerals : document.HasNumerals)
    (unjoined : document.Unjoined) :
    ∃ encoded, document.toBase64 machine = .ok encoded ∧ ofBase64 machine encoded = .ok document ∧
      (∀ other : PolicyDocument, other.Typed → other.Unjoined →
        other.toBase64 machine = .ok encoded → other = document) ∧
      (∀ layout : Json.Layout, layout.IsBlank → ∃ text, document.toJson machine layout = .ok text ∧
        ofJson machine text = .ok document ∧
        ∀ other : PolicyDocument, other.Typed → other.Unjoined → ∀ otherLayout : Json.Layout, otherLayout.IsBlank →
          other.toJson machine otherLayout = .ok text → other = document) ∧
      ∀ decoded, ofBase64 machine encoded = .ok decoded →
        decoded.names = document.names ∧ decoded.text machine = document.text machine ∧
          decoded.toBase64 machine = .ok encoded := by
  have written := typed.to_base64 machine numerals
  have decodes := typed.of_base64 unjoined written
  refine ⟨document.encoded, written, decodes, fun other otherTyped otherUnjoined same => ?_, fun layout blank => ?_,
    fun decoded read => ?_⟩
  · exact Except.ok.inj ((otherTyped.of_base64 otherUnjoined same).symm.trans decodes)
  · have json := typed.to_json machine numerals layout
    refine ⟨_, json, typed.of_json unjoined blank json,
      fun other otherTyped otherUnjoined otherLayout otherBlank same => ?_⟩
    exact Except.ok.inj ((otherTyped.of_json otherUnjoined otherBlank same).symm.trans
      (typed.of_json unjoined blank json))
  · rw [decodes] at read
    obtain rfl := Except.ok.inj read
    exact ⟨rfl, rfl, written⟩

/-- A container with a terminal and a directory beside one with layers. -/
def sidecarDocument : PolicyDocument :=
  { containers :=
      [("web", { spec :=
          { ociVersion := .text ociVersion
            process := { user := ⟨1000, -1⟩, cwd := .text "/", args := [.text "\"é\n"],
                         terminal := true } } }),
       ("app", { spec := { mounts := [{ destination := .text "/data", options := ["ro"] }] }
                 custom := { layers := [.text "sha256:0"] } })] }

theorem sidecar_transported :
    sidecarDocument.Typed ∧ sidecarDocument.HasNumerals ∧ sidecarDocument.Unjoined ∧
      ∃ encoded, sidecarDocument.toBase64 .standard = .ok encoded ∧
        ofBase64 .standard encoded = .ok sidecarDocument := by
  have text := Value.text_is_text
  have typed : sidecarDocument.Typed := by
    refine ⟨text _, by decide, ?_⟩
    simp only [sidecarDocument, List.forall_mem_cons, List.not_mem_nil, false_implies,
      implies_true, and_true]
    exact ⟨⟨⟨text _, ⟨text _, by simp, by simp⟩, by simp⟩, by simp⟩,
      ⟨⟨text _, ⟨text _, by simp, by simp⟩,
        by simpa using ⟨text _, text _, text _⟩⟩, by simp⟩⟩
  have numerals : sidecarDocument.HasNumerals := by
    simp only [HasNumerals, sidecarDocument, List.forall_mem_cons, List.not_mem_nil, false_implies,
      implies_true, and_true]
    exact ⟨⟨by decide, by decide⟩, by decide, by decide⟩
  have unjoined : sidecarDocument.Unjoined := by
    simp [Unjoined, sidecarDocument, toValue, ContainerPolicy.toValue, LaunchSpec.toValue, ProcessSpec.toValue,
      User.toValue, Mount.toValue, Custom.toValue, Value.consists_object_iff, Value.consists_list_iff,
      Value.consists_texts_iff, Value.consists_scalar_iff]
  obtain ⟨encoded, written, decodes, -⟩ := transport_lossless {} sidecarDocument typed numerals unjoined
  exact ⟨typed, numerals, unjoined, encoded, written, decodes⟩

/-- A user whose numeral is one digit too long. -/
def oversizedDocument : PolicyDocument :=
  { containers :=
      [("app", { spec := { process := { user := ⟨Nat.pow 10 Text.longestNumeral, 0⟩ } } })] }

/-- The document is not written at all. -/
theorem oversized_not_transported :
    oversizedDocument.Typed ∧ oversizedDocument.toBase64 .standard = .error .badValue ∧
      ¬ ∃ encoded, oversizedDocument.toBase64 .standard = .ok encoded ∧
        ofBase64 .standard encoded = .ok oversizedDocument := by
  have text := Value.text_is_text
  have typed : oversizedDocument.Typed := by
    refine ⟨text _, List.pairwise_singleton _ ("app" : Text), ?_⟩
    simp only [oversizedDocument, List.forall_mem_cons, List.not_mem_nil, false_implies,
      implies_true, and_true]
    exact ⟨⟨text _, ⟨text _, by simp, by simp⟩, by simp⟩, by simp⟩
  have oversized : ¬ oversizedDocument.HasNumerals := by
    intro numerals
    have user := (numerals ("app", _) List.mem_cons_self).1
    simp only [Json.HasNumeral, Int.natAbs_natCast] at user
    exact Nat.not_le.mpr (Json.lt_length_digits_pow Text.longestNumeral) user
  have refused : oversizedDocument.toBase64 .standard = .error .badValue := by
    rw [toBase64, PolicyDocument.text, typed.to_json_refused .standard oversized]
    rfl
  refine ⟨typed, refused, ?_⟩
  rintro ⟨encoded, written, -⟩
  cases refused.symm.trans written

end PolicyDocument

end LaunchPolicy
