import LaunchPolicy.Value.Display

/-!
Faults of data: the ways in which a value or a text cannot be taken for what an operation
needs. A fault is a cause, not a report; reports that quote a fault word it.
-/

namespace LaunchPolicy

inductive Fault where
  /-- The operation is not defined for values of this type. -/
  | wrongType
  /-- The type is right and the value has no meaning, such as a numeral without digits. -/
  | badValue
  /-- A field was asked of something that is no mapping. -/
  | noFields
  /-- A text was asked for and found to be something else. -/
  | notText
  /-- A mapping lacks a field that must be there. -/
  | missingField (name : Text)
  /-- A field has a name that is not free. -/
  | reservedField (name : Text)
  /-- Mount options are not a list of texts. -/
  | mountOptions (options : Value)
  /-- An infinite number where an integer is needed. -/
  | overflow
  /-- An index past the end of an empty text. -/
  | emptyText
  | notUtf8
  /-- A text with halves of pairs that has no octets. -/
  | unencodable
  | notJson
  | notYaml
  | notBase64
  /-- Collections within collections beyond what can be followed. -/
  | tooDeep
deriving DecidableEq, Repr

/-- How a fault is worded where a report quotes it. -/
abbrev Wording := Fault → Text

def Fault.text : Fault → Text
  | .wrongType => "value of the wrong type"
  | .badValue => "value without a meaning"
  | .noFields => "not a mapping"
  | .notText => "not a text"
  | .missingField name => Scalar.quoted (.text name)
  | .reservedField name => "field name not free: " ++ name
  | .mountOptions options => "mount options must be a list of strings, got " ++ options.quoted
  | .overflow => "number out of range"
  | .emptyText => "empty text"
  | .notUtf8 => "not UTF-8"
  | .unencodable => "no text in UTF-8"
  | .notJson => "not JSON"
  | .notYaml => "not YAML"
  | .notBase64 => "not base64"
  | .tooDeep => "nested too deeply"

end LaunchPolicy
