import LaunchPolicy.Proofs.Image.Fields
import LaunchPolicy.Proofs.Policy.Read
import LaunchPolicy.Proofs.Settings.Fields

/-!
Reading a policy or a configuration settles its form. Whatever the types of a JSON value's fields, what
is read from it is written as a JSON value from which the same is read, and as a text from which the
same is read if the integers of the value have numerals and there is room for the levels of what is written.
-/

namespace LaunchPolicy

section

variable {ε α : Type} {read : Value → Except ε α} {write : α → Value} {v : Value}

/-- Reading a value and writing what was read. -/
def rewritten (read : Value → Except ε α) (write : α → Value) (v : Value) : Except ε Value :=
  (read v).map write

/-- What is read from a value is written as a JSON value from which it is read again, so that reading
and writing once more change nothing. -/
structure Settles (read : Value → Except ε α) (write : α → Value) (v : Value) : Prop where
  formed : ∀ a, read v = .ok a → (write a).Consists Scalar.Formed
  again : ∀ a, read v = .ok a → read (write a) = .ok a
  fixed : ∀ w, rewritten read write v = .ok w → rewritten read write w = .ok w

theorem settles_of (formed : ∀ a, read v = .ok a → (write a).Consists Scalar.Formed)
    (again : ∀ a, read v = .ok a → read (write a) = .ok a) : Settles read write v where
  formed := formed
  again := again
  fixed := by
    intro w written
    obtain ⟨a, first, rfl⟩ := Outcome.map_ok_iff.mp written
    exact Outcome.map_ok_iff.mpr ⟨a, again a first, rfl⟩

/-- What is read from a value is written as a text, in every layout, from which it is read again, as far as
there is room for its levels. -/
def SettlesInText (machine : Machine) (read : Value → Except Fault α) (write : α → Value) (v : Value) : Prop :=
  ∀ a, read v = .ok a → (write a).depth ≤ machine.jsonWritten → (write a).depth ≤ machine.jsonRead →
    ∀ layout : Json.Layout, layout.IsBlank →
      ∃ text, Json.write machine.jsonWritten layout (write a) = .ok text ∧
        (Json.read machine.jsonRead text >>= read) = .ok a

theorem settles_in_text_of {machine : Machine} {read : Value → Except Fault α}
    (legible : ∀ a, read v = .ok a → (write a).Consists Json.Legible)
    (again : ∀ a, read v = .ok a → read (write a) = .ok a) : SettlesInText machine read write v := by
  intro a first written back layout blank
  have writable := (legible a first).weaken fun _ legible => legible.1
  refine ⟨Json.render layout (write a), Json.write_writable layout writable written, ?_⟩
  rw [Json.read_render blank (legible a first) back]
  exact again a first

end

/-- Everything that is read from a value settles. -/
structure ReadingSettles (machine : Machine) (v : Value) : Prop where
  user : Settles User.ofValue User.toValue v
  process : Settles ProcessSpec.ofValue ProcessSpec.toValue v
  mount : Settles Mount.ofValue Mount.toValue v
  spec : Settles LaunchSpec.ofValue LaunchSpec.toValue v
  custom : Settles Custom.ofValue Custom.toValue v
  container : Settles ContainerPolicy.ofValue ContainerPolicy.toValue v
  document : Settles PolicyDocument.ofValue PolicyDocument.toValue v
  image : Settles ImageConfig.ofValue ImageConfig.toValue v
  inspector : Settles InspectorSettings.ofValue InspectorSettings.toValue v
  cluster : Settles ClusterSettings.ofValue ClusterSettings.toValue v
  sandbox : Settles (SandboxSettings.ofValue machine) SandboxSettings.toValue v
  settings : Settles (Settings.ofValue machine) Settings.toValue v

theorem reading_settles_of_formed (machine : Machine) {v : Value} (json : v.Consists Scalar.Formed) :
    ReadingSettles machine v where
  user := settles_of (fun _ => User.of_value_consists Scalar.formed_closed json)
    fun user _ => user.of_value_to_value
  process := settles_of (fun _ => ProcessSpec.of_value_consists Scalar.formed_closed json)
    fun process _ => process.of_value_to_value
  mount := settles_of (fun _ => Mount.of_value_consists Scalar.formed_closed json)
    fun mount _ => mount.of_value_to_value
  spec := settles_of (fun _ => LaunchSpec.of_value_consists Scalar.formed_closed json)
    fun spec _ => spec.of_value_to_value
  custom := settles_of (fun _ => Custom.of_value_consists Scalar.formed_closed json)
    fun custom _ => custom.of_value_to_value
  container := settles_of (fun _ => ContainerPolicy.of_value_consists Scalar.formed_closed json)
    fun policy _ => policy.of_value_to_value
  document := settles_of (fun _ => PolicyDocument.of_value_consists Scalar.formed_closed json)
    fun document _ => document.of_value_to_value
  image := settles_of (fun _ => ImageConfig.of_value_consists Scalar.formed_closed json)
    fun image _ => image.of_value_to_value
  inspector := settles_of (fun _ => InspectorSettings.of_value_consists Scalar.formed_closed json)
    fun _ read => InspectorSettings.of_value_to_value (InspectorSettings.of_value_whole read)
  cluster := settles_of (fun _ => ClusterSettings.of_value_consists Scalar.formed_closed json)
    fun settings _ => settings.of_value_to_value
  sandbox := settles_of (fun _ => SandboxSettings.of_value_consists Scalar.formed_closed json)
    fun settings _ => settings.of_value_to_value machine
  settings := settles_of (fun _ => Settings.of_value_consists Scalar.formed_closed json)
    fun _ read => Settings.of_value_to_value (Settings.of_value_whole read) machine

/-- What is read from a JSON value settles, in text too if the integers of the value have numerals and
there is room for the levels of what is written. -/
theorem reading_settles (machine : Machine) (v : Value) (json : v.Consists Scalar.Formed) :
    ReadingSettles machine v ∧
      (v.Consists Json.Legible →
        SettlesInText machine PolicyDocument.ofValue PolicyDocument.toValue v ∧
          SettlesInText machine (Settings.ofValue machine) Settings.toValue v ∧
          ∀ document, PolicyDocument.ofValue v = .ok document →
            document.toValue.depth ≤ machine.jsonWritten → document.toValue.depth ≤ machine.jsonRead →
            ∀ layout : Json.Layout, layout.IsBlank →
              ∃ text, document.toJson machine layout = .ok text ∧
                PolicyDocument.ofJson machine text = .ok document) := by
  refine ⟨reading_settles_of_formed machine json, fun legible => ⟨?_, ?_, ?_⟩⟩
  · exact settles_in_text_of (fun _ => PolicyDocument.of_value_consists Scalar.legible_closed legible)
      fun document _ => document.of_value_to_value
  · exact settles_in_text_of (fun _ => Settings.of_value_consists Scalar.legible_closed legible)
      fun _ read => Settings.of_value_to_value (Settings.of_value_whole read) machine
  · intro document read written back layout blank
    exact PolicyDocument.of_json_of_value legible read written back blank

/-- Settings of which none has the type of what it stands for. -/
def oddSettings : Value :=
  .object [("registry", .object [("timeout_seconds", .text " 6_0"), ("extra_args", .text "-q")]),
    ("cluster", .list []), ("sandbox", .object [("name", .null), ("version", .bool true)]),
    ("with_default_rules", .text "no")]

def oddSettingsRead : Settings where
  inspector := { timeout := .int 60, extraArguments := [.text "-", .text "q"] }
  sandbox := { name := .null, version := "True" }
  withRuntime := true

theorem odd_settings_settle :
    oddSettings.Consists Scalar.Formed ∧ oddSettings.Consists Json.Legible ∧
      Settings.ofValue {} oddSettings = .ok oddSettingsRead ∧
      Settings.ofValue {} oddSettingsRead.toValue = .ok oddSettingsRead ∧
      ∃ text, oddSettingsRead.text {} = .ok text ∧
        (Json.read Machine.standard.jsonRead text >>= Settings.ofValue {}) = .ok oddSettingsRead := by
  have legible : oddSettings.Consists Json.Legible := by
    simp [oddSettings, Value.consists_object_iff, Value.consists_scalar_iff, Value.consists_list_iff,
      Scalar.legible_closed.string, Scalar.legible_closed.truth, Scalar.legible_closed.null]
  have formed := legible.weaken Json.legible_formed
  have read : Settings.ofValue {} oddSettings = .ok oddSettingsRead := by decide
  obtain ⟨settles, inText⟩ := reading_settles {} oddSettings formed
  obtain ⟨-, settings, -⟩ := inText legible
  exact ⟨formed, legible, read, settles.settings.again _ read,
    settings _ read (by decide) (by decide) (.spaces 2) (Json.spaces_is_blank 2)⟩

/-- A configuration whose kubeconfig is an integer. -/
def numberedCluster (n : Int) : Value := .object [("cluster", .object [("kubeconfig", .int n)])]

theorem numbered_cluster_read (n : Int) :
    Settings.ofValue {} (numberedCluster n) = .ok { cluster := { kubeconfig := .int n } } := rfl

theorem numbered_cluster_not_written :
    (numberedCluster (Nat.pow 10 Text.longestNumeral)).Consists Scalar.Formed ∧
      Settings.ofValue {} (numberedCluster (Nat.pow 10 Text.longestNumeral)) =
        .ok { cluster := { kubeconfig := .int (Nat.pow 10 Text.longestNumeral) } } ∧
      Settings.text {} { cluster := { kubeconfig := .int (Nat.pow 10 Text.longestNumeral) } } = .error .badValue := by
  have oversized : ¬ Json.HasNumeral (Nat.pow 10 Text.longestNumeral) := by
    intro numeral
    simp only [Json.HasNumeral, Int.natAbs_natCast] at numeral
    exact Nat.not_le.mpr (Json.lt_length_digits_pow Text.longestNumeral) numeral
  generalize (Nat.pow 10 Text.longestNumeral : Int) = n at oversized
  have formed : (numberedCluster n).Consists Scalar.Formed := by
    simp [numberedCluster, Value.consists_object_iff, Value.consists_scalar_iff, Scalar.Formed]
  have written := Settings.of_value_consists Scalar.formed_closed formed (numbered_cluster_read n)
  have shallow : (Settings.toValue { cluster := { kubeconfig := .int n } }).depth = 3 := rfl
  refine ⟨formed, numbered_cluster_read n, Json.write_unwritable _ written ?_ (by rw [shallow]; decide)⟩
  intro writable
  simp [Settings.toValue, ClusterSettings.toValue, Value.consists_object_iff, Value.consists_scalar_iff] at writable
  exact oversized writable.2.1

end LaunchPolicy
