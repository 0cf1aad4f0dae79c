import LaunchPolicy.Error.Basic

/-!
Fields of a manifest by the shape they must have. A field that is null counts as absent.
An error names the path of the field, which its reader is told.
-/

namespace LaunchPolicy.Manifest

abbrev Read := Except PolicyError

def misshapen {α : Type} (path : FieldPath) (what : String) (shape : Shape) : Read α :=
  .error (PolicyError.atField path (.notShaped what shape))

/-- The value of a field unless it is absent or null. -/
def present? (fields : Fields) (key : String) : Option Value :=
  match fields.get? (.text key) with
  | some .null => none
  | found => found

def mapping? (fields : Fields) (key : String) (path : FieldPath) : Read (Option Fields) :=
  match present? fields key with
  | none => .ok none
  | some (.map inner) => .ok (some inner)
  | some _ => misshapen path key .mapping

def sequence (fields : Fields) (key : String) (path : FieldPath) : Read (List Value) :=
  match present? fields key with
  | none => .ok []
  | some (.list items) => .ok items
  | some _ => misshapen path key .sequence

/-- A text that must be there. -/
def string (fields : Fields) (key : String) (path : FieldPath) : Read Text :=
  match present? fields key with
  | some (.text s) => .ok s
  | _ => misshapen path key .string

/-- A text that is empty when it is absent. -/
def optionalString (fields : Fields) (key : String) (path : FieldPath) : Read Text :=
  match present? fields key with
  | none => .ok ""
  | some (.text s) => .ok s
  | some _ => misshapen path key .string

/-- A flag that is off when it is absent. -/
def flag (fields : Fields) (key : String) (path : FieldPath) : Read Bool :=
  match present? fields key with
  | none => .ok false
  | some (.bool b) => .ok b
  | some _ => misshapen path key .bool

/-- Reads each item with its path, in order. -/
def eachItem {α : Type} {m : Type → Type} [Monad m] (path : FieldPath) (items : List Value)
    (read : FieldPath → Value → m α) : m (List α) :=
  items.zipIdx.mapM fun (item, index) => read (path.item index) item

def strings (fields : Fields) (key : String) (path : FieldPath) : Read (List Text) := do
  eachItem path (← sequence fields key path) fun itemPath item =>
    match item with
    | .text s => .ok s
    | _ => .error (PolicyError.atField itemPath (.itemNotText key))

end LaunchPolicy.Manifest
