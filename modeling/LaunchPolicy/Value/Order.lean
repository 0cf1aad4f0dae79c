import LaunchPolicy.Value.Basic

/-!
The order of scalars. Numbers, texts, octets, dates and moments are each ordered among
themselves; scalars of different sorts have no order.
-/

namespace LaunchPolicy.Scalar

/-- Numerator and denominator of a number, which is infinite when the denominator is zero. -/
def extendedRatio? (s : Scalar) : Option (Int × Nat) :=
  match s.number? with
  | some (.inl n) => some (n, 1)
  | some (.inr (.infinite negative)) => some (if negative then -1 else 1, 0)
  | some (.inr .notANumber) => some (0, 0)
  | some (.inr x) => x.ratio?.map fun (negative, n, d) => (if negative then -(n : Int) else n, d)
  | none => none

def ratioAtMost (a b : Int × Nat) : Bool :=
  if a.2 = 0 ∧ b.2 = 0 then a.1 ≤ b.1 else a.1 * b.2 ≤ b.1 * a.2

/-- Lists of numbers in the order of their first difference. -/
def listAtMost (a b : List Nat) : Bool := !b.lex a fun x y => x < y

/-- Whether `a` comes no later than `b`, if the two have an order. -/
def atMost? (a b : Scalar) : Option Bool :=
  match a, b with
  | .text s, .text t => some (listAtMost (s.points.map Point.code) (t.points.map Point.code))
  | .bytes s, .bytes t => some (listAtMost (s.map UInt8.toNat) (t.map UInt8.toNat))
  | .date d, .date e => some (d.dayNumber ≤ e.dayNumber)
  | .moment m, .moment n =>
      if m.offset.isSome = n.offset.isSome then some (m.instant ≤ n.instant) else none
  | _, _ =>
      match a.extendedRatio?, b.extendedRatio? with
      | some x, some y => some (ratioAtMost x y)
      | _, _ => none

/-- Whether each two scalars of a list have an order. -/
def comparable : List Scalar → Bool
  | [] => true
  | s :: rest => rest.all (fun t => (s.atMost? t).isSome) && comparable rest

/-- The scalars in order, if they have one. -/
def sorted? (scalars : List Scalar) : Option (List Scalar) :=
  if comparable scalars then some (scalars.mergeSort fun s t => (s.atMost? t).getD true) else none

theorem perm_of_sorted {scalars ordered : List Scalar} (h : sorted? scalars = some ordered) :
    ordered.Perm scalars := by
  simp only [sorted?, Option.ite_none_right_eq_some, Option.some.injEq] at h
  exact h.2 ▸ List.mergeSort_perm scalars _

end LaunchPolicy.Scalar
