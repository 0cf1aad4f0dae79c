import LaunchPolicy.Fault

/-!
Tokens of YAML: the indicators, the properties of nodes and the scalars of a text, and
the places where indentation opens and closes a collection.
-/

namespace LaunchPolicy.Yaml

inductive Directive where
  | version (major : Nat)
  | tag (handle uri : String)
  | other
deriving DecidableEq, Repr

inductive Token where
  | directive (d : Directive)
  | documentStart
  | documentEnd
  | streamEnd
  | blockSequenceStart
  | blockMappingStart
  | blockEnd
  | flowSequenceStart
  | flowSequenceEnd
  | flowMappingStart
  | flowMappingEnd
  | blockEntry
  | flowEntry
  | key
  | value
  | alias (name : String)
  | anchor (name : String)
  /-- A verbatim tag has no handle. -/
  | tag (handle : Option String) (suffix : String)
  | scalar (text : Text) (plain : Bool)
deriving DecidableEq, Repr

/-- The tokens of a text up to its end, or those that are settled before its first fault. -/
structure Tokens where
  items : List Token
  fault : Option Fault
deriving DecidableEq, Repr

end LaunchPolicy.Yaml
