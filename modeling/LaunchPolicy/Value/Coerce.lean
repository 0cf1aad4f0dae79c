import LaunchPolicy.Fault
import LaunchPolicy.Text.Numeral

/-!
Readings of a value as something else: as a truth value, an integer, a list of items, or
a mapping that is asked for a field.
-/

namespace LaunchPolicy

namespace Scalar

def truthy : Scalar → Bool
  | .null => false
  | .bool b => b
  | .int n => n != 0
  | .float x => !x.isZero
  | .text s => s != ("" : String)
  | .bytes octets => !octets.isEmpty
  | .date _ | .moment _ => true

def integerOfNumeral (cs : List Char) : Except Fault Int :=
  match Text.integer? cs with
  | some n => .ok n
  | none => .error .badValue

/-- The integer of a number, toward zero, or of a numeral. -/
def integer : Scalar → Except Fault Int
  | .bool b => .ok (if b then 1 else 0)
  | .int n => .ok n
  | .float .notANumber => .error .badValue
  | .float x => match x.truncate? with
      | some n => .ok n
      | none => .error .overflow
  | .text s => integerOfNumeral s.outline.toList
  | .bytes octets =>
      if octets.all (· < 128) then integerOfNumeral (octets.map fun octet => Char.ofNat octet.toNat)
      else .error .badValue
  | .null | .date _ | .moment _ => .error .wrongType

end Scalar

namespace Value

/-- False are null, zero and all that is empty. -/
def truthy : Value → Bool
  | .scalar s => s.truthy
  | .list items => !items.isEmpty
  | .pair _ _ => true
  | .set members => !members.isEmpty
  | .map fields => !fields.isEmpty

def integer : Value → Except Fault Int
  | .scalar s => s.integer
  | _ => .error .wrongType

/-- The items of a collection: characters of a text, keys of a mapping. -/
def items : Value → Except Fault (List Value)
  | .scalar (.text s) => .ok (s.points.map fun point => .text (Text.ofPoints [point]))
  | .scalar (.bytes octets) => .ok (octets.map fun octet => .int octet.toNat)
  | .list items => .ok items
  | .pair a b => .ok [a, b]
  | .set members => .ok (members.map .scalar)
  | .map fields => .ok (fields.map fun field => .scalar field.1)
  | .scalar _ => .error .wrongType

/-- The fields of a mapping; nothing else can be asked for a field. -/
def fields : Value → Except Fault Fields
  | .map fields => .ok fields
  | _ => .error .noFields

/-- The field of a mapping, or the default where it is absent. -/
def field (v : Value) (name : Text) (default : Value) : Except Fault Value := do
  return ((← v.fields).get? (.text name)).getD default

def text? : Value → Option Text
  | .scalar (.text s) => some s
  | _ => none

def texts? : Value → Option (List Text)
  | .list items => items.mapM text?
  | _ => none

end Value

end LaunchPolicy
