import LaunchPolicy.Number.Binary64
import LaunchPolicy.Text.Basic
import LaunchPolicy.Value.Calendar

/-!
Document values: what a JSON or YAML text says, read as a tree. Mappings keep their
fields in order. Their keys are scalars; two keys are the same when they are equal as
numbers, texts or instants, so `1`, `1.0` and `true` are one key.
-/

namespace LaunchPolicy

inductive Scalar where
  | null
  | bool (b : Bool)
  | int (n : Int)
  | float (x : Binary64)
  | text (s : Text)
  | bytes (octets : List UInt8)
  | date (d : Date)
  | moment (m : Moment)
deriving DecidableEq, Repr

inductive Value where
  | scalar (s : Scalar)
  | list (items : List Value)
  | pair (first second : Value)
  | set (members : List Scalar)
  | map (fields : List (Scalar × Value))
deriving Repr

mutual

def Value.equal : (a b : Value) → Decidable (a = b)
  | .scalar s, .scalar t => decidable_of_iff (s = t) (by simp)
  | .list xs, .list ys =>
      match Value.equalItems xs ys with
      | isTrue h => isTrue (by simp [h])
      | isFalse h => isFalse (by simp [h])
  | .pair a b, .pair c d =>
      match Value.equal a c, Value.equal b d with
      | isTrue h, isTrue k => isTrue (by simp [h, k])
      | isFalse h, _ => isFalse (by simp [h])
      | _, isFalse k => isFalse (by simp [k])
  | .set xs, .set ys => decidable_of_iff (xs = ys) (by simp)
  | .map xs, .map ys =>
      match Value.equalFields xs ys with
      | isTrue h => isTrue (by simp [h])
      | isFalse h => isFalse (by simp [h])
  | .scalar _, .list _ | .scalar _, .pair _ _ | .scalar _, .set _ | .scalar _, .map _
  | .list _, .scalar _ | .list _, .pair _ _ | .list _, .set _ | .list _, .map _
  | .pair _ _, .scalar _ | .pair _ _, .list _ | .pair _ _, .set _ | .pair _ _, .map _
  | .set _, .scalar _ | .set _, .list _ | .set _, .pair _ _ | .set _, .map _
  | .map _, .scalar _ | .map _, .list _ | .map _, .pair _ _ | .map _, .set _ => isFalse (by simp)

def Value.equalItems : (xs ys : List Value) → Decidable (xs = ys)
  | [], [] => isTrue rfl
  | x :: xs, y :: ys =>
      match Value.equal x y, Value.equalItems xs ys with
      | isTrue h, isTrue k => isTrue (by simp [h, k])
      | isFalse h, _ => isFalse (by simp [h])
      | _, isFalse k => isFalse (by simp [k])
  | [], _ :: _ | _ :: _, [] => isFalse (by simp)

def Value.equalFields : (xs ys : List (Scalar × Value)) → Decidable (xs = ys)
  | [], [] => isTrue rfl
  | (k, x) :: xs, (l, y) :: ys =>
      match decEq k l, Value.equal x y, Value.equalFields xs ys with
      | isTrue h, isTrue i, isTrue j => isTrue (by simp [h, i, j])
      | isFalse h, _, _ => isFalse (by simp [h])
      | _, isFalse i, _ => isFalse (by simp [i])
      | _, _, isFalse j => isFalse (by simp [j])
  | [], _ :: _ | _ :: _, [] => isFalse (by simp)

end

instance : DecidableEq Value := Value.equal

namespace Scalar

/-- The number that a scalar is, booleans being zero and one. -/
def number? : Scalar → Option (Int ⊕ Binary64)
  | .bool b => some (.inl (if b then 1 else 0))
  | .int n => some (.inl n)
  | .float x => some (.inr x)
  | _ => none

def sameNumber : Int ⊕ Binary64 → Int ⊕ Binary64 → Bool
  | .inl a, .inl b => a == b
  | .inl a, .inr b => b.toInt? == some a
  | .inr a, .inl b => a.toInt? == some b
  | .inr a, .inr b => a == b || (a.isZero && b.isZero)

/-- Equality of mapping keys. -/
def sameKey (a b : Scalar) : Bool :=
  match a.number?, b.number? with
  | some x, some y => sameNumber x y
  | none, none =>
      match a, b with
      | .moment m, .moment n => m.sameInstant n
      | _, _ => a == b
  | _, _ => false

theorem same_key_text (s t : Text) : sameKey (.text s) (.text t) = decide (s = t) := by
  simp only [sameKey, number?]
  by_cases h : s = t
  · subst h; simp
  · simp [h]

end Scalar

namespace Value

@[match_pattern] abbrev null : Value := .scalar .null
@[match_pattern] abbrev bool (b : Bool) : Value := .scalar (.bool b)
@[match_pattern] abbrev int (n : Int) : Value := .scalar (.int n)
@[match_pattern] abbrev float (x : Binary64) : Value := .scalar (.float x)
@[match_pattern] abbrev text (s : Text) : Value := .scalar (.text s)

instance : Inhabited Value := ⟨.null⟩

/-- A mapping with text keys. -/
def object (fields : List (Text × Value)) : Value := .map (fields.map fun field => (.text field.1, field.2))

def texts (items : List Text) : Value := .list (items.map .text)

end Value

abbrev Fields := List (Scalar × Value)

namespace Fields

def get? (fields : Fields) (key : Scalar) : Option Value :=
  match fields with
  | [] => none
  | (k, value) :: rest => if k.sameKey key then some value else get? rest key

/-- Gives a key its value: in the place of the field it replaces, or last. -/
def put (fields : Fields) (key : Scalar) (value : Value) : Fields :=
  match fields with
  | [] => [(key, value)]
  | (k, old) :: rest => if k.sameKey key then (k, value) :: rest else (k, old) :: put rest key value

def contains (fields : Fields) (key : Scalar) : Bool := (fields.get? key).isSome

end Fields

namespace Value

def get? (v : Value) (key : Text) : Option Value :=
  match v with
  | .map fields => Fields.get? fields (.text key)
  | _ => none

end Value

end LaunchPolicy
