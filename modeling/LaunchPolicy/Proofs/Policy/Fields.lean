import LaunchPolicy.Policy.Document

/-!
A document is read back from its tree: every field that is written is found again, and every
field that is left out has the value that stands for its absence.
-/

namespace LaunchPolicy

namespace Value

@[simp] theorem field_object_nil (name : Text) (default : Value) :
    (object []).field name default = .ok default := rfl

theorem field_object_cons
    (key : Text)
    (value : Value)
    (fields : List (Text × Value))
    (name : Text)
    (default : Value) :
    (object ((key, value) :: fields)).field name default =
      if key = name then .ok value else (object fields).field name default := by
  simp only [field, object, List.map_cons, Value.fields, bind, Except.bind, pure, Except.pure,
    Fields.get?, Scalar.same_key_text, decide_eq_true_eq]
  split <;> rfl

@[simp] theorem get_object_nil (name : Text) : (object []).get? name = none := rfl

theorem get_object_cons
    (key : Text)
    (value : Value)
    (fields : List (Text × Value))
    (name : Text) :
    (object ((key, value) :: fields)).get? name =
      if key = name then some value else (object fields).get? name := by
  simp only [get?, object, List.map_cons, Fields.get?, Scalar.same_key_text, decide_eq_true_eq]

@[simp] theorem texts_of_texts (items : List Text) : (texts items).texts? = some items := by
  rw [texts, texts?, List.mapM_map]
  induction items with
  | nil => rfl
  | cons item items ih =>
      rw [List.mapM_cons, ih]
      rfl

theorem text_eq_some_iff (v : Value) (s : Text) : v.text? = some s ↔ v = .text s := by
  rw [text?.eq_def]
  split
  · simp
  · rename_i noText
    simpa using noText s

/-- Only a list of texts is read as texts. -/
theorem texts_eq_some_iff (v : Value) (items : List Text) : v.texts? = some items ↔ v = texts items := by
  constructor
  · intro read
    cases v with
    | list values =>
        rw [texts?] at read
        rw [texts]
        congr 1
        induction values generalizing items with
        | nil => simpa using read
        | cons value values ih =>
            rw [List.mapM_cons] at read
            obtain ⟨s, first, rest⟩ := Option.bind_eq_some_iff.mp read
            obtain ⟨others, taken, rest⟩ := Option.bind_eq_some_iff.mp rest
            obtain rfl := Option.some.inj rest
            rw [(text_eq_some_iff value s).mp first, ih others taken, List.map_cons]
    | _ => contradiction
  · rintro rfl
    exact texts_of_texts items

end Value

/-- Items that are each read back from what they are written as are so together. -/
theorem map_then_read
    {α β : Type}
    {write : α → β}
    {read : β → Except Fault α}
    {items : List α}
    (each : ∀ item ∈ items, read (write item) = .ok item) :
    (items.map write).mapM read = .ok items := by
  induction items with
  | nil => rfl
  | cons item items ih =>
      rw [List.map_cons, List.mapM_cons, each item (by simp),
        ih fun other member => each other (List.mem_cons_of_mem _ member)]
      rfl

theorem User.of_value_to_value (user : User) : User.ofValue user.toValue = .ok user := by
  simp [User.ofValue, User.toValue, Value.field_object_cons, Value.integer, Scalar.integer, bind,
    Except.bind, pure, Except.pure]

/-- A terminal that is not there is not written, and reads as none. -/
theorem ProcessSpec.of_value_to_value (process : ProcessSpec) :
    ProcessSpec.ofValue process.toValue = .ok process := by
  obtain ⟨user, cwd, args, env, terminal⟩ := process
  cases terminal <;>
    simp [ProcessSpec.ofValue, ProcessSpec.toValue, Value.field_object_cons, Value.items,
      User.of_value_to_value, Value.truthy, Scalar.truthy, bind, Except.bind, pure, Except.pure]

theorem Mount.of_value_to_value (mount : Mount) : Mount.ofValue mount.toValue = .ok mount := by
  simp [Mount.ofValue, Mount.toValue, Value.field_object_cons, Value.get_object_cons, bind,
    Except.bind, pure, Except.pure]

theorem LaunchSpec.of_value_to_value (spec : LaunchSpec) :
    LaunchSpec.ofValue spec.toValue = .ok spec := by
  have mounts : (spec.mounts.map Mount.toValue).mapM Mount.ofValue = .ok spec.mounts :=
    map_then_read fun mount _ => mount.of_value_to_value
  simp [LaunchSpec.ofValue, LaunchSpec.toValue, Value.field_object_cons, Value.items,
    ProcessSpec.of_value_to_value, mounts, bind, Except.bind, pure, Except.pure]

/-- Layers that are not there are not written, and read as none. -/
theorem Custom.of_value_to_value (custom : Custom) : Custom.ofValue custom.toValue = .ok custom := by
  obtain ⟨layers⟩ := custom
  cases layers <;>
    simp [Custom.ofValue, Custom.toValue, Value.field_object_cons, Value.items, bind, Except.bind,
      pure, Except.pure]

/-- Constraints that are written as an empty mapping are read as none at all. -/
theorem ContainerPolicy.of_value_to_value (policy : ContainerPolicy) :
    ContainerPolicy.ofValue policy.toValue = .ok policy := by
  obtain ⟨spec, custom⟩ := policy
  have empty : (if custom.toValue.truthy then custom.toValue else .map []) = custom.toValue := by
    obtain ⟨layers⟩ := custom
    cases layers <;> rfl
  simp only [ContainerPolicy.toValue, Value.object, List.map_cons, List.map_nil,
    ContainerPolicy.ofValue, Value.get?, Fields.get?, Scalar.same_key_text, decide_true, if_true,
    bind, Except.bind, LaunchSpec.of_value_to_value]
  simp [empty, Custom.of_value_to_value, pure, Except.pure]

/-- The containers come back in their order. -/
theorem PolicyDocument.of_value_to_value (document : PolicyDocument) :
    PolicyDocument.ofValue document.toValue = .ok document := by
  have containers : (document.containers.map fun entry =>
      (Scalar.text entry.1, entry.2.toValue)).mapM containerOfField = .ok document.containers :=
    map_then_read fun entry _ => by
      rw [containerOfField, ContainerPolicy.of_value_to_value]
      rfl
  simp only [PolicyDocument.ofValue, PolicyDocument.toValue, Value.field_object_cons, bind,
    Except.bind, if_true]
  simp [Value.fields, Value.object, Function.comp_def, containers, pure, Except.pure]

end LaunchPolicy
