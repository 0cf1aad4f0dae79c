import LaunchPolicy.Value.Basic

/-!
Values at the end of a path of fields. A value that is set there changes what is read at that
path and beyond it, and nothing that is read along another.
-/

namespace LaunchPolicy

theorem Scalar.same_key_text_iff (s : Scalar) (name : Text) :
    s.sameKey (.text name) = true ↔ s = .text name := by
  cases s <;> simp [sameKey, number?]

namespace Fields

theorem get_put (fields : Fields) (key name : Text) (value : Value) :
    (fields.put (.text key) value).get? (.text name) =
      if key = name then some value else fields.get? (.text name) := by
  induction fields with
  | nil => simp [put, get?, Scalar.same_key_text]
  | cons field fields ih =>
      obtain ⟨known, old⟩ := field
      by_cases here : known = .text key
      · by_cases same : key = name <;> simp [put, get?, here, Scalar.same_key_text, same]
      · have apart : known.sameKey (.text key) = false := by
          rw [Bool.eq_false_iff, ne_eq, Scalar.same_key_text_iff]
          exact here
        simp only [put, apart, Bool.false_eq_true, if_false, get?, ih]
        by_cases found : known.sameKey (.text name) = true
        · have other : key ≠ name := by
            rintro rfl
            exact absurd found (by simp [apart])
          simp [found, other]
        · simp [found]

theorem mem_of_get {fields : Fields} {key : Scalar} {value : Value} (found : fields.get? key = some value) :
    ∃ known, (known, value) ∈ fields := by
  induction fields with
  | nil => contradiction
  | cons field fields ih =>
      rw [get?] at found
      split at found
      · exact ⟨field.1, by simp [← Option.some.inj found]⟩
      · obtain ⟨known, member⟩ := ih found
        exact ⟨known, List.mem_cons_of_mem field member⟩

/-- A key that was given a value is given another. -/
theorem put_put (fields : Fields) (key : Text) (first second : Value) :
    (fields.put (.text key) first).put (.text key) second = fields.put (.text key) second := by
  induction fields with
  | nil => simp [put, Scalar.same_key_text]
  | cons field fields ih =>
      obtain ⟨known, old⟩ := field
      by_cases here : known.sameKey (.text key) = true <;> simp [put, here, ih]

theorem put_of_get {fields : Fields} {key : Scalar} {value : Value} (found : fields.get? key = some value) :
    fields.put key value = fields := by
  induction fields with
  | nil => contradiction
  | cons field fields ih =>
      rw [get?] at found
      rw [put]
      split at found
      · rename_i same
        obtain rfl := Option.some.inj found
        exact if_pos same
      · rename_i other
        rw [if_neg other, ih found]

/-- A field is set in the place of the first one with its key. -/
theorem put_at {before rest : Fields} {known key : Scalar} {old : Value}
    (same : known.sameKey key = true) (new : ∀ field ∈ before, field.1.sameKey key = false)
    (value : Value) :
    (before ++ (known, old) :: rest).put key value = before ++ (known, value) :: rest := by
  induction before with
  | nil => simp [put, same]
  | cons field before ih =>
      obtain ⟨first, new⟩ := List.forall_mem_cons.mp new
      simp [put, first, ih new]

/-- A field is set in the place of the first one of its name, or last where there is none. -/
theorem put_cases (fields : Fields) (name : Text) (value : Value) :
    (∃ before old rest, fields = before ++ (.text name, old) :: rest ∧
      (∀ field ∈ before, field.1 ≠ .text name) ∧ fields.get? (.text name) = some old ∧
        fields.put (.text name) value = before ++ (.text name, value) :: rest) ∨
    ((∀ field ∈ fields, field.1 ≠ .text name) ∧ fields.get? (.text name) = none ∧
      fields.put (.text name) value = fields ++ [(.text name, value)]) := by
  induction fields with
  | nil => exact .inr (by simp [get?, put])
  | cons field fields ih =>
      obtain ⟨known, old⟩ := field
      by_cases here : known = .text name
      · subst here
        exact .inl ⟨[], old, fields, rfl, by simp, by simp [get?, Scalar.same_key_text],
          by simp [put, Scalar.same_key_text]⟩
      · have apart : ¬ known.sameKey (.text name) = true := by rwa [Scalar.same_key_text_iff]
        rcases ih with ⟨before, first, rest, rfl, new, found, set⟩ | ⟨new, absent, set⟩
        · refine .inl ⟨(known, old) :: before, first, rest, rfl, ?_, ?_, ?_⟩
          · exact List.forall_mem_cons.mpr ⟨here, new⟩
          · rw [get?, if_neg apart, found]
          · rw [put, if_neg apart, set, List.cons_append]
        · refine .inr ⟨List.forall_mem_cons.mpr ⟨here, new⟩, ?_, ?_⟩
          · rw [get?, if_neg apart, absent]
          · rw [put, if_neg apart, set, List.cons_append]

end Fields

namespace Value

def at? (v : Value) : List String → Option Value
  | [] => some v
  | name :: names => (v.get? name).bind fun inner => inner.at? names

/-- The fields of a mapping; anything else has none. -/
def ownFields : Value → Fields
  | .map fields => fields
  | _ => []

/-- The tree with a value at the end of a path. Mappings are made where there are none. -/
def setAt : List String → Value → Value → Value
  | [], new, _ => new
  | name :: names, new, v =>
      .map (v.ownFields.put (.text name) (setAt names new ((v.get? name).getD .null)))

theorem get_eq_get_own_fields (v : Value) (name : Text) :
    v.get? name = v.ownFields.get? (.text name) := by
  cases v <;> rfl

theorem get_set_at (name : String) (names : List String) (new v : Value) (other : String) :
    (setAt (name :: names) new v).get? other =
      if name = other then some (setAt names new ((v.get? name).getD .null)) else v.get? other := by
  rw [get_eq_get_own_fields v other]
  simp only [setAt, get?, Fields.get_put, Text.string.injEq]

/-- Setting a value where it is changes nothing. -/
theorem set_at_of_at {path : List String} {v inner : Value} (found : v.at? path = some inner) :
    setAt path inner v = v := by
  induction path generalizing v with
  | nil => exact (Option.some.inj found).symm
  | cons name names ih =>
      obtain ⟨part, here, further⟩ := Option.bind_eq_some_iff.mp found
      cases v with
      | map fields =>
          have here : Fields.get? fields (.text name) = some part := here
          rw [setAt, get?, here, Option.getD_some, ih further, ownFields, Fields.put_of_get here]
      | _ => contradiction

/-- Setting a value twice is setting it the second time. -/
theorem set_at_set_at (path : List String) (first second v : Value) :
    setAt path second (setAt path first v) = setAt path second v := by
  induction path generalizing v with
  | nil => rfl
  | cons name names ih =>
      have inner := get_set_at name names first v name
      rw [if_pos rfl] at inner
      rw [setAt, inner, Option.getD_some, ih, setAt, ownFields, Fields.put_put]
      rfl

/-- What is read along a path that leaves the one at which a value is set is what it was. -/
theorem at_set_at_apart (common : List String) {name other : String} (different : name ≠ other)
    (names others : List String) (new v : Value) :
    (setAt (common ++ name :: names) new v).at? (common ++ other :: others) =
      v.at? (common ++ other :: others) := by
  induction common generalizing v with
  | nil => rw [List.nil_append, List.nil_append, at?, get_set_at, if_neg different, at?]
  | cons step common ih =>
      rw [List.cons_append, List.cons_append, at?, get_set_at, if_pos rfl, Option.bind_some, ih, at?]
      cases found : v.get? step with
      | some inner => rfl
      | none => cases common <;> rfl

theorem at_set_at (path : List String) (new v : Value) : (setAt path new v).at? path = some new := by
  induction path generalizing v with
  | nil => rfl
  | cons name names ih => rw [at?, get_set_at, if_pos rfl, Option.bind_some, ih]

theorem at_append (v : Value) (front more : List String) :
    v.at? (front ++ more) = (v.at? front).bind fun inner => inner.at? more := by
  induction front generalizing v with
  | nil => rfl
  | cons name front ih =>
      cases found : v.get? name with
      | none => simp [at?, found]
      | some inner => simp [at?, found, ih]

theorem at_own_field (fields : Fields) (name : String) :
    (Value.map fields).at? [name] = fields.get? (.text name) := by
  rw [Value.at?, Value.get?]
  cases fields.get? (.text name) <;> rfl

/-- What is at a field of a mapping in a document. -/
theorem at_field {document : Value} {fields : Fields} {place : List String}
    (here : document.at? place = some (.map fields)) (name : String) :
    document.at? (place ++ [name]) = fields.get? (.text name) := by
  rw [Value.at_append, here, Option.bind_some, at_own_field]

/-- What leads to a mapping leads through mappings. -/
theorem mappings_on_the_way {document : Value} {fields : Fields} {names : List String}
    (here : document.at? names = some (.map fields)) :
    ∀ front, front <+: names → ∃ inner, document.at? front = some (.map inner) := by
  rintro front ⟨more, rfl⟩
  rw [Value.at_append] at here
  obtain ⟨v, found, here⟩ := Option.bind_eq_some_iff.mp here
  cases v with
  | map inner => exact ⟨inner, found⟩
  | _ => cases more <;> exact absurd here (by simp [Value.at?, Value.get?])

/-- A value that is set below a place sets another one there. -/
theorem set_at_append (front more : List String) (new : Value) {v inner : Value}
    (found : v.at? front = some inner) :
    setAt (front ++ more) new v = setAt front (setAt more new inner) v := by
  induction front generalizing v with
  | nil =>
      obtain rfl := Option.some.inj found
      rfl
  | cons name front ih =>
      obtain ⟨next, here, found⟩ := Option.bind_eq_some_iff.mp found
      rw [List.cons_append, setAt, setAt, here, Option.getD_some, ih found]

/-- A value that is set at a place and then below it is set there with what is below it. -/
theorem set_at_set_at_below (front more : List String) (first second v : Value) :
    setAt (front ++ more) second (setAt front first v) = setAt front (setAt more second first) v := by
  rw [set_at_append front more second (at_set_at front first v), set_at_set_at]

theorem own_fields_set_at (path : List String) (fields : Fields) (v : Value) :
    .map (setAt path (.map fields) v).ownFields = setAt path (.map fields) v := by
  cases path <;> rfl

/-- What is on the way to a value that is set. -/
theorem at_set_at_front (front more : List String) (new v : Value) :
    (setAt (front ++ more) new v).at? front = some (setAt more new ((v.at? front).getD .null)) := by
  induction front generalizing v with
  | nil => rfl
  | cons name front ih =>
      rw [List.cons_append, at?, get_set_at, if_pos rfl, Option.bind_some, ih, at?]
      cases found : v.get? name with
      | some inner => rfl
      | none => cases front <;> rfl

/-- A tree and the same tree with a value at the end of a path. A field on the way is changed in its
place, or it is made as the last one; null stands for an empty mapping. -/
inductive Assigned (new : Value) : List String → Value → Value → Prop
  | here (old : Value) : Assigned new [] old new
  | changed {name : String} {names : List String} {before rest : Fields} {old value : Value}
      (first : ∀ field ∈ before, field.1 ≠ .text name) (inner : Assigned new names old value) :
      Assigned new (name :: names) (.map (before ++ (.text name, old) :: rest))
        (.map (before ++ (.text name, value) :: rest))
  | added {name : String} {names : List String} {fields : Fields} {value : Value}
      (absent : ∀ field ∈ fields, field.1 ≠ .text name) (inner : Assigned new names .null value) :
      Assigned new (name :: names) (.map fields) (.map (fields ++ [(.text name, value)]))
  | made {name : String} {names : List String} {value : Value}
      (inner : Assigned new (name :: names) (.map []) value) : Assigned new (name :: names) .null value

theorem Assigned.put {new value : Value} {fields : Fields} {name : String} {names : List String}
    (inner : Assigned new names ((fields.get? (.text name)).getD .null) value) :
    Assigned new (name :: names) (.map fields) (.map (fields.put (.text name) value)) := by
  rcases fields.put_cases name value with ⟨before, old, rest, rfl, first, found, set⟩ | ⟨absent, none, set⟩
  · rw [set]
    rw [found] at inner
    exact .changed first inner
  · rw [set]
    rw [none] at inner
    exact .added absent inner

/-- A value is assigned below a field when it is in what the field holds. -/
theorem Assigned.field {new inner : Value} {fields : Fields} {name : String} {names : List String}
    (found : (fields.get? (.text name)).getD .null = inner)
    (assigned : Assigned new names inner (setAt names new inner)) :
    Assigned new (name :: names) (.map fields) (setAt (name :: names) new (.map fields)) := by
  subst found
  exact .put assigned

theorem assigned_null (new : Value) (names : List String) :
    Assigned new names .null (setAt names new .null) := by
  induction names with
  | nil => exact .here .null
  | cons name names ih => exact .made (.put ih)

/-- A value is assigned in a document when it is in the mapping at a place of the document. -/
theorem Assigned.in_mapping {new v : Value} {front more : List String} {fields : Fields}
    (here : v.at? front = some (.map fields))
    (assigned : Assigned new more (.map fields) (setAt more new (.map fields))) :
    Assigned new (front ++ more) v (setAt (front ++ more) new v) := by
  induction front generalizing v with
  | nil =>
      obtain rfl := Option.some.inj here
      exact assigned
  | cons name front ih =>
      obtain ⟨next, found, below⟩ := Option.bind_eq_some_iff.mp here
      cases v with
      | map known =>
          have there : (Fields.get? known (.text name)).getD .null = next := by
            rw [show Fields.get? known (.text name) = some next from found, Option.getD_some]
          exact .field there (ih below)
      | _ => contradiction

end Value

end LaunchPolicy
