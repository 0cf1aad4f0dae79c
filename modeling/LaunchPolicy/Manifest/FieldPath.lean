/-!
Paths of fields in a manifest, such as `spec.containers[0].env[1].name`.
-/

namespace LaunchPolicy

inductive PathStep where
  | field (name : String)
  | item (index : Nat)
deriving DecidableEq, Repr

/-- The steps from a place, which is the document's root when its text is empty. -/
structure FieldPath where
  start : String := ""
  steps : List PathStep := []
deriving DecidableEq, Repr

namespace FieldPath

def field (path : FieldPath) (name : String) : FieldPath :=
  { path with steps := path.steps ++ [.field name] }

def item (path : FieldPath) (index : Nat) : FieldPath :=
  { path with steps := path.steps ++ [.item index] }

def ofFields (names : List String) : FieldPath := { steps := names.map .field }

/-- A field name follows a point, unless nothing precedes it; an index stands in brackets. -/
def stepText (before : String) : PathStep → String
  | .field name => if before = "" then name else before ++ "." ++ name
  | .item index => before ++ "[" ++ toString index ++ "]"

def text (path : FieldPath) : String := path.steps.foldl stepText path.start

theorem text_field (path : FieldPath) (name : String) :
    (path.field name).text = stepText path.text (.field name) := by simp [text, field]

theorem text_item (path : FieldPath) (index : Nat) :
    (path.item index).text = stepText path.text (.item index) := by simp [text, item]

end FieldPath

end LaunchPolicy
