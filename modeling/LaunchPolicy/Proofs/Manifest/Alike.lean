import LaunchPolicy.Manifest.Field
import LaunchPolicy.Proofs.Manifest.Path
import LaunchPolicy.Proofs.Outcome

/-!
Values that are the same but for one field, which is null in one of them and missing in the other.
What is read along other paths is the same, and so is what is read of a field that counts as absent
when it is null.
-/

namespace LaunchPolicy

open Manifest

namespace Fields

/-- The fields of other names. -/
def without (fields : Fields) (name : String) : Fields :=
  fields.filter fun field => !field.1.sameKey (.text name)

theorem get_without (fields : Fields) (name other : String) :
    (without fields name).get? (.text other) =
      if name = other then none else fields.get? (.text other) := by
  induction fields with
  | nil => simp [without, get?]
  | cons field fields ih =>
      rw [without] at ih
      rw [without, List.filter_cons]
      by_cases here : field.1 = .text name
      · have removed : field.1.sameKey (.text name) = true := (Scalar.same_key_text_iff _ _).mpr here
        rw [removed]
        by_cases same : name = other
        · simpa [same] using ih
        · simpa [get?, here, Scalar.same_key_text, same] using ih
      · have kept : field.1.sameKey (.text name) = false := by
          rw [Bool.eq_false_iff, ne_eq, Scalar.same_key_text_iff]
          exact here
        rw [kept]
        by_cases found : field.1.sameKey (.text other) = true
        · have different : name ≠ other := by
            rintro rfl
            exact here ((Scalar.same_key_text_iff _ _).mp found)
          simp [get?, found, different]
        · simpa [get?, found] using ih

end Fields

namespace Value

/-- The value in which the mapping at the end of a path is changed. Where there is none, it is the
same value. -/
def changeAt (change : Fields → Fields) : List PathStep → Value → Value
  | [], .map fields => .map (change fields)
  | .field name :: steps, .map fields =>
      match Fields.get? fields (.text name) with
      | some inner => .map (Fields.put fields (.text name) (changeAt change steps inner))
      | none => .map fields
  | .item index :: steps, .list items =>
      match items[index]? with
      | some item => .list (items.set index (changeAt change steps item))
      | none => .list items
  | _, v => v

theorem resolve_change_at {change : Fields → Fields} {steps : List PathStep} {v : Value}
    {fields : Fields} (found : v.resolve? steps = some (.map fields)) :
    (v.changeAt change steps).resolve? steps = some (.map (change fields)) := by
  induction steps generalizing v with
  | nil =>
      obtain rfl := Option.some.inj found
      rfl
  | cons step steps ih =>
      rw [resolve_cons] at found
      obtain ⟨inner, led, further⟩ := Option.bind_eq_some_iff.mp found
      cases step with
      | field name =>
          cases v with
          | map known =>
              have here : Fields.get? known (.text name) = some inner := led
              have set : (changeAt change (.field name :: steps) (.map known)).step? (.field name) =
                  some (inner.changeAt change steps) := by
                simp only [changeAt, here, step?, Fields.get_put, if_true]
              rw [resolve_cons, set]
              exact ih further
          | _ => contradiction
      | item index =>
          cases v with
          | list items =>
              have here : items[index]? = some inner := led
              have within := (List.getElem?_eq_some_iff.mp here).1
              have set : (changeAt change (.item index :: steps) (.list items)).step? (.item index) =
                  some (inner.changeAt change steps) := by
                simp only [changeAt, here, step?, List.getElem?_set_self within]
              rw [resolve_cons, set]
              exact ih further
          | _ => contradiction

/-- A field to which neither the path nor the change leads. -/
theorem get_change_at_apart {change : Fields → Fields} {steps : List PathStep} {name : String}
    (kept : ∀ fields, (change fields).get? (.text name) = fields.get? (.text name))
    (apart : steps.head? ≠ some (.field name)) (v : Value) :
    (v.changeAt change steps).get? name = v.get? name := by
  cases steps with
  | nil =>
      cases v with
      | map fields => exact kept fields
      | _ => rfl
  | cons step steps =>
      cases step with
      | field first =>
          have different : first ≠ name := by
            rintro rfl
            exact apart rfl
          cases v with
          | map fields =>
              rw [changeAt]
              split
              · rw [get?, get?, Fields.get_put, if_neg (mt Text.string.inj different)]
              · rfl
          | _ => rfl
      | item index =>
          cases v with
          | list items =>
              rw [changeAt]
              split <;> rfl
          | _ => rfl

/-- The value with a field of the mapping at the end of a path set to null. -/
def withNull (v : Value) (steps : List PathStep) (name : String) : Value :=
  v.changeAt (fun fields => Fields.put fields (.text name) .null) steps

/-- The value without that field. -/
def without (v : Value) (steps : List PathStep) (name : String) : Value :=
  v.changeAt (fun fields => Fields.without fields name) steps

theorem resolve_with_null {v : Value} {steps : List PathStep} {fields : Fields}
    (found : v.resolve? steps = some (.map fields)) (name : String) :
    (v.withNull steps name).resolve? (steps ++ [.field name]) = some .null := by
  rw [resolve_push, withNull, resolve_change_at found, Option.bind_some, step?, Fields.get_put, if_pos rfl]

/-- Two values are the same, or else they have mappings at the end of the path that are the same but
for its last field, and this field counts as absent in both. -/
inductive Alike : List PathStep → Value → Value → Prop
  | same (path : List PathStep) (v : Value) : Alike path v v
  | absent {name : String} {fields others : Fields}
      (left : present? fields name = none) (right : present? others name = none)
      (apart : ∀ other, other ≠ name → fields.get? (.text other) = others.get? (.text other)) :
      Alike [.field name] (.map fields) (.map others)
  | field {name : String} {path : List PathStep} {fields others : Fields} {v w : Value}
      (left : fields.get? (.text name) = some v) (right : others.get? (.text name) = some w)
      (inner : Alike path v w)
      (apart : ∀ other, other ≠ name → fields.get? (.text other) = others.get? (.text other)) :
      Alike (.field name :: path) (.map fields) (.map others)
  | item {index : Nat} {path : List PathStep} {items others : List Value} {v w : Value}
      (left : items[index]? = some v) (right : others[index]? = some w) (inner : Alike path v w)
      (apart : ∀ other, other ≠ index → items[other]? = others[other]?) :
      Alike (.item index :: path) (.list items) (.list others)

/-- A field that is null and a field that is missing make no other difference. -/
theorem alike_with_null_without (steps : List PathStep) (name : String) (v : Value) :
    Alike (steps ++ [.field name]) (v.withNull steps name) (v.without steps name) := by
  induction steps generalizing v with
  | nil =>
      cases v with
      | map fields =>
          refine .absent ?_ ?_ ?_
          · rw [present?, Fields.get_put, if_pos rfl]
          · rw [present?, Fields.get_without, if_pos rfl]
          · intro other different
            rw [Fields.get_put, Fields.get_without, if_neg (mt Text.string.inj (Ne.symm different)),
              if_neg (Ne.symm different)]
      | _ => exact .same _ _
  | cons step steps ih =>
      cases step with
      | field key =>
          cases v with
          | map fields =>
              rw [withNull, without, changeAt, changeAt]
              cases found : Fields.get? fields (.text key) with
              | none => exact .same _ _
              | some inner =>
                  refine .field ?_ ?_ (ih inner) ?_
                  · rw [Fields.get_put, if_pos rfl]
                    rfl
                  · rw [Fields.get_put, if_pos rfl]
                    rfl
                  · intro other different
                    have apart := mt Text.string.inj (Ne.symm different)
                    rw [Fields.get_put, Fields.get_put, if_neg apart, if_neg apart]
          | _ => exact .same _ _
      | item index =>
          cases v with
          | list items =>
              rw [withNull, without, changeAt, changeAt]
              cases found : items[index]? with
              | none => exact .same _ _
              | some item =>
                  have within := (List.getElem?_eq_some_iff.mp found).1
                  refine .item ?_ ?_ (ih item) ?_
                  · rw [List.getElem?_set_self within]
                    rfl
                  · rw [List.getElem?_set_self within]
                    rfl
                  · intro other different
                    rw [List.getElem?_set_ne (Ne.symm different), List.getElem?_set_ne (Ne.symm different)]
          | _ => exact .same _ _

namespace Alike

variable {name : String} {path : List PathStep} {fields others : Fields} {v w : Value}

theorem get_apart (alike : Alike (.field name :: path) (.map fields) (.map others)) {other : String}
    (different : other ≠ name) : fields.get? (.text other) = others.get? (.text other) := by
  cases alike with
  | same => rfl
  | absent _ _ apart => exact apart other different
  | field _ _ _ apart => exact apart other different

theorem present_apart (alike : Alike (.field name :: path) (.map fields) (.map others))
    {other : String} (different : other ≠ name) : present? fields other = present? others other := by
  rw [present?, present?, alike.get_apart different]

theorem present_last (alike : Alike [.field name] (.map fields) (.map others)) (other : String) :
    present? fields other = present? others other := by
  by_cases different : other = name
  · subst different
    cases alike with
    | same => rfl
    | absent left right _ => rw [left, right]
    | field left right inner _ =>
        cases inner
        rw [present?, present?, left, right]
  · exact alike.present_apart different

theorem map_left (alike : Alike path (.map fields) w) : ∃ others, w = .map others := by
  cases alike <;> exact ⟨_, rfl⟩

theorem map_right (alike : Alike path v (.map others)) : ∃ fields, v = .map fields := by
  cases alike <;> exact ⟨_, rfl⟩

/-- What has a field is the same value or a mapping. -/
theorem map_cases (alike : Alike (.field name :: path) v w) :
    v = w ∨ ∃ fields others, v = .map fields ∧ w = .map others := by
  cases alike with
  | same => exact .inl rfl
  | absent => exact .inr ⟨_, _, rfl, rfl⟩
  | field => exact .inr ⟨_, _, rfl, rfl⟩

/-- The field by which a longer path goes on is in both mappings or in neither. -/
theorem field_cases {step : PathStep}
    (alike : Alike (.field name :: step :: path) (.map fields) (.map others)) :
    fields.get? (.text name) = others.get? (.text name) ∨
      ∃ v w, fields.get? (.text name) = some v ∧ others.get? (.text name) = some w ∧
        Alike (step :: path) v w := by
  cases alike with
  | same => exact .inl rfl
  | field left right inner _ => exact .inr ⟨_, _, left, right, inner⟩

/-- One step on the way to the field: the same value, two mappings, or no mapping in either. -/
theorem step_cases {names : List String} {step : PathStep}
    (alike : Alike (.field name :: (names.map .field ++ step :: path)) (.map fields) (.map others)) :
    fields.get? (.text name) = others.get? (.text name) ∨
      (∃ inner other, fields.get? (.text name) = some (.map inner) ∧
        others.get? (.text name) = some (.map other) ∧
        Alike (names.map .field ++ step :: path) (.map inner) (.map other)) ∨
      (∀ inner, fields.get? (.text name) ≠ some (.map inner)) ∧
        ∀ inner, others.get? (.text name) ≠ some (.map inner) := by
  obtain ⟨next, tail, goes⟩ : ∃ next tail, names.map .field ++ step :: path = next :: tail := by
    cases names <;> exact ⟨_, _, rfl⟩
  rw [goes] at alike ⊢
  rcases alike.field_cases with same | ⟨v, w, left, right, inner⟩
  · exact .inl same
  · rw [left, right]
    by_cases isMap : ∃ fields, v = .map fields
    · obtain ⟨fields, rfl⟩ := isMap
      obtain ⟨others, rfl⟩ := inner.map_left
      exact .inr (.inl ⟨fields, others, rfl, rfl, inner⟩)
    · refine .inr (.inr ⟨fun known same => isMap ⟨known, Option.some.inj same⟩, fun known same => ?_⟩)
      obtain rfl := Option.some.inj same
      exact isMap inner.map_right

theorem items {index : Nat} {items more : List Value}
    (alike : Alike (.item index :: path) (.list items) (.list more)) :
    List.Forall₂ (Alike path) items more := by
  cases alike with
  | same => exact List.forall₂_same.mpr fun v _ => Alike.same path v
  | item left right inner apart =>
      refine Outcome.related_of_places fun i => ?_
      by_cases here : i = index
      · rw [here, left, right]
        exact .some inner
      · rw [apart i here]
        cases more[i]? with
        | none => exact .none
        | some v => exact .some (.same path v)

end Alike

end Value

end LaunchPolicy
