import LaunchPolicy.Proofs.Value.Path
import LaunchPolicy.Yaml.Graph

/-!
Changes to a graph, field by field. A new value changes no value that is there, and setting a
field of a mapping changes that field alone.
-/

namespace LaunchPolicy.Yaml

theorem field_put_field (fields : List (Key × Nat)) (key name : String) (value : Nat) :
    field? (putField fields { scalar := .text key } value) name =
      if key = name then some value else field? fields name := by
  induction fields with
  | nil => by_cases same : key = name <;> simp [putField, field?, Scalar.same_key_text, same]
  | cons entry fields ih =>
      obtain ⟨known, old⟩ := entry
      by_cases here : known.scalar = .text key
      · by_cases same : key = name <;> simp [putField, field?, here, Scalar.same_key_text, same]
      · have apart : known.scalar.sameKey (.text key) = false := by
          rw [Bool.eq_false_iff, ne_eq, Scalar.same_key_text_iff]
          exact here
        simp only [putField, apart, Bool.false_eq_true, if_false, field?, List.find?_cons] at ih ⊢
        by_cases found : known.scalar.sameKey (.text name) = true
        · have other : key ≠ name := by
            rintro rfl
            exact absurd found (by simp [apart])
          simp [found, other]
        · simp only [found]
          exact ih

namespace Graph

variable {g : Graph} {id : Nat}

theorem field_eq_some_iff {name : String} {value : Nat} :
    g.field? id name = some value ↔
      ∃ fields, g.content? id = some (.map fields) ∧ Yaml.field? fields name = some value := by
  rw [field?]
  cases g.content? id with
  | none => simp
  | some content => cases content <;> simp

theorem is_map_iff : g.isMap id = true ↔ ∃ fields, g.content? id = some (.map fields) := by
  rw [isMap]
  cases g.content? id with
  | none => simp
  | some content => cases content <;> simp

theorem lt_size_of_content {content : Content} (known : g.content? id = some content) :
    id < g.contents.size := by
  rw [content?] at known
  exact (Array.getElem?_eq_some_iff.mp known).1

theorem content_add (content : Content) :
    (g.add content).1.content? (g.add content).2 = some content := by
  simp [add, content?]

theorem content_add_known {old : Content} (known : g.content? id = some old) (content : Content) :
    (g.add content).1.content? id = some old := by
  have bound := lt_size_of_content known
  rw [content?] at known
  simp only [add, content?, Array.getElem?_push, Nat.ne_of_lt bound, if_false]
  exact known

theorem is_map_add_known (isMap : g.isMap id = true) (content : Content) :
    (g.add content).1.isMap id = true := by
  obtain ⟨fields, here⟩ := is_map_iff.mp isMap
  exact is_map_iff.mpr ⟨fields, content_add_known here content⟩

theorem ne_next_of_is_map (isMap : g.isMap id = true) (content : Content) :
    id ≠ (g.add content).2 := by
  obtain ⟨fields, here⟩ := is_map_iff.mp isMap
  exact Nat.ne_of_lt (lt_size_of_content here)

theorem content_set_field_other {other : Nat} (different : other ≠ id) (key : String)
    (value : Nat) : (g.setField id key value).content? other = g.content? other := by
  rw [setField]
  split
  · simp [set, content?, Ne.symm different]
  · rfl

theorem content_set_field_here {fields : List (Key × Nat)}
    (here : g.content? id = some (.map fields)) (key : String) (value : Nat) :
    (g.setField id key value).content? id =
      some (.map (putField fields { scalar := .text key } value)) := by
  have bound := lt_size_of_content here
  simp only [setField, here]
  simp [set, content?, bound]

/-- The value at the end of a path of fields. -/
def follow? (g : Graph) (id : Nat) : List String → Option Nat
  | [] => some id
  | name :: names => (g.field? id name).bind fun inner => g.follow? inner names

/-- The text at the end of a path of fields from the root. -/
def textAt? (g : Graph) (path : List String) : Option Text :=
  match (g.follow? g.root path).bind g.content? with
  | some (.scalar (.text s)) => some s
  | _ => none

/-! Graphs read as trees -/

theorem view_at (known : Content) (here : g.content? id = some known) (depth : Nat) :
    (g.views (depth + 1)).getD id .null =
      known.view fun inner => (g.views depth).getD inner .null := by
  rw [content?] at here
  simp [views, Array.getD_eq_getD_getElem?, here]

theorem view_at_absent (absent : g.content? id = none) (depth : Nat) :
    (g.views depth).getD id .null = .null := by
  rw [content?] at absent
  cases depth <;> simp [views, Array.getD_eq_getD_getElem?, absent]

theorem get_view_map (parts : Nat → Value) (fields : List (Key × Nat)) (name : String) :
    (Content.view parts (.map fields)).get? name = (Yaml.field? fields name).map parts := by
  induction fields with
  | nil => rfl
  | cons entry fields ih =>
      simp only [Content.view, Value.get?, List.map_cons, Fields.get?, Yaml.field?,
        List.find?_cons] at ih ⊢
      cases entry.1.scalar.sameKey (.text name) with
      | true => rfl
      | false => exact ih

/-- A field of a value is a field of the tree that it is read as, one level down. -/
theorem get_view {name : String} {inner : Nat} (found : g.field? id name = some inner)
    (depth : Nat) :
    ((g.views (depth + 1)).getD id .null).get? name = some ((g.views depth).getD inner .null) := by
  obtain ⟨fields, here, found⟩ := field_eq_some_iff.mp found
  rw [view_at _ here, get_view_map, found]
  rfl

theorem is_map_of_view {fields : Fields} {depth : Nat} (view : g.view (depth + 1) = .map fields) :
    g.isMap g.root = true := by
  rw [Graph.view] at view
  cases here : g.content? g.root with
  | none =>
      rw [view_at_absent here] at view
      contradiction
  | some content =>
      rw [view_at _ here] at view
      cases content with
      | map fields => simp [isMap, here]
      | _ => exact absurd view (by simp [Content.view])

theorem at_view {g : Graph} {id inner : Nat} {path : List String}
    (found : g.follow? id path = some inner) (depth : Nat) :
    ((g.views (depth + path.length)).getD id .null).at? path =
      some ((g.views depth).getD inner .null) := by
  induction path generalizing id with
  | nil =>
      obtain rfl := Option.some.inj found
      rfl
  | cons name path ih =>
      obtain ⟨next, here, found⟩ := Option.bind_eq_some_iff.mp found
      rw [Value.at?, List.length_cons, ← Nat.add_assoc, get_view here]
      exact ih found

/-- A text at the end of a path is there in every tree that is deep enough. -/
theorem at_view_of_text_at {g : Graph} {path : List String} {s : Text}
    (text : g.textAt? path = some s) {depth : Nat} (deep : path.length ≤ depth) :
    (g.view depth).at? path = some (.text s) := by
  rw [textAt?] at text
  split at text
  · rename_i t found
    obtain rfl := Option.some.inj text
    obtain ⟨inner, followed, here⟩ := Option.bind_eq_some_iff.mp found
    obtain ⟨rest, rfl⟩ := Nat.exists_eq_add_of_le' deep
    rw [Graph.view, at_view followed]
    rw [content?] at here
    cases rest <;> simp [views, Array.getD_eq_getD_getElem?, here, Content.view]
  · contradiction

end Graph

end LaunchPolicy.Yaml
