import LaunchPolicy.Value.Coerce

/-!
Environment rules: `NAME=value`, a pattern of that form, or a bare `NAME` that asks for
the removal of a rule. `merge` applies overrides to rules in three steps: the last rule of
each name is found; overrides with a value replace that rule in its place or are appended;
removals delete at the places found first, although earlier removals have shifted the rules.
-/

namespace LaunchPolicy.Env

/-- The text before the first equals sign. -/
def name (rule : Text) : Text := Text.ofPoints (rule.points.takeWhile (· ≠ '='))

/-- A rule with an equals sign; without one it asks for a removal. -/
def hasValue (rule : Text) : Bool := rule.points.contains '='

/-- The place of the last rule of a name. -/
def lastPosition? (rules : List Text) (wanted : Text) : Option Nat :=
  match rules with
  | [] => none
  | rule :: rest =>
      match lastPosition? rest wanted with
      | some position => some (position + 1)
      | none => if name rule = wanted then some 0 else none

/-- Replaces the rule at the place that the name has in `index`, or appends. -/
def substitute (index rules : List Text) (override : Text) : List Text :=
  match lastPosition? index (name override) with
  | some position => rules.set position override
  | none => rules ++ [override]

/-- Deletes at the place that the name has in `index`, if there still is one. -/
def remove (index rules : List Text) (wanted : Text) : List Text :=
  match lastPosition? index wanted with
  | some position => rules.eraseIdx position
  | none => rules

def merge (rules overrides : List Text) : List Text :=
  let substituted := (overrides.filter hasValue).foldl (substitute rules) rules
  (overrides.filter (!hasValue ·)).foldl (remove rules) substituted

/-- The fault of an override that is no text, where it shows before any removal. -/
def earlyFault? : Value → Option Fault
  | .text _ => none
  | .list items => if Value.text "=" ∈ items then some .notText else none
  | .map fields => if Fields.contains fields (.text "=") then some .notText else none
  | _ => some .wrongType

/-- `merge` on rules and overrides that must turn out to be texts. -/
def mergeValues (rules overrides : List Value) : Except Fault (List Value) :=
  match rules.mapM Value.text? with
  | none => .error .notText
  | some rules =>
      match overrides.findSome? earlyFault? with
      | some fault => .error fault
      | none =>
          match overrides.mapM Value.text? with
          | none => .error .wrongType
          | some overrides => .ok ((merge rules overrides).map .text)

end LaunchPolicy.Env
