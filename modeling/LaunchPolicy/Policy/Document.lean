import LaunchPolicy.Json.Reader
import LaunchPolicy.Machine
import LaunchPolicy.Policy.Spec
import LaunchPolicy.Text.Base64

/-!
Policy documents: the launch specifications of a workload's containers by name, in the
order in which names were first added. A document travels as base64 of its indented JSON.
-/

namespace LaunchPolicy

def policyVersion : String := "0.1.0"

structure Custom where
  layers : List Value := []
deriving DecidableEq, Repr

structure ContainerPolicy where
  spec : LaunchSpec
  custom : Custom := {}
deriving DecidableEq, Repr

structure PolicyDocument where
  version : Value := .text policyVersion
  containers : List (Text × ContainerPolicy) := []
deriving DecidableEq, Repr

namespace Custom

def toValue (custom : Custom) : Value :=
  .object (if custom.layers.isEmpty then [] else [("layers", .list custom.layers)])

def ofValue (v : Value) : Except Fault Custom := do
  return ⟨← (← v.field "layers" (.list [])).items⟩

end Custom

namespace ContainerPolicy

def toValue (policy : ContainerPolicy) : Value :=
  .object [("oci_spec", policy.spec.toValue), ("custom", policy.custom.toValue)]

/-- There must be a specification; custom constraints that are empty in any way are none. -/
def ofValue (v : Value) : Except Fault ContainerPolicy :=
  match v with
  | .map fields => do
      match Fields.get? fields (.text "oci_spec") with
      | none => throw (.missingField "oci_spec")
      | some spec =>
          let spec ← LaunchSpec.ofValue spec
          let custom := (v.get? "custom").getD .null
          return ⟨spec, ← Custom.ofValue (if custom.truthy then custom else .map [])⟩
  | _ => .error .wrongType

end ContainerPolicy

namespace PolicyDocument

/-- Sets the policy of a name: in the place of the one it replaces, or last. -/
def insert (containers : List (Text × ContainerPolicy)) (name : Text) (policy : ContainerPolicy) :
    List (Text × ContainerPolicy) :=
  match containers with
  | [] => [(name, policy)]
  | (known, old) :: rest =>
      if known = name then (known, policy) :: rest else (known, old) :: insert rest name policy

def add (document : PolicyDocument) (name : Text) (policy : ContainerPolicy) : PolicyDocument :=
  { document with containers := insert document.containers name policy }

def names (document : PolicyDocument) : List Text := document.containers.map (·.1)

def get? (document : PolicyDocument) (name : Text) : Option ContainerPolicy :=
  (document.containers.find? (·.1 = name)).map (·.2)

def size (document : PolicyDocument) : Nat := document.containers.length

def toValue (document : PolicyDocument) : Value :=
  .object [("version", document.version),
    ("containers", .object (document.containers.map fun entry => (entry.1, entry.2.toValue)))]

def containerOfField : Scalar × Value → Except Fault (Text × ContainerPolicy)
  | (key, value) => do return (key.plain, ← ContainerPolicy.ofValue value)

def ofValue (v : Value) : Except Fault PolicyDocument := do
  let version ← v.field "version" (.text policyVersion)
  let fields ← (← v.field "containers" (.map [])).fields
  return ⟨version, ← fields.mapM containerOfField⟩

def toJson (machine : Machine) (document : PolicyDocument) (layout : Json.Layout) : Except Fault String :=
  Json.write machine.jsonWritten layout document.toValue

/-- The JSON text of a document, two spaces a level. -/
def text (machine : Machine) (document : PolicyDocument) : Except Fault String :=
  document.toJson machine (.spaces 2)

def ofJson (machine : Machine) (text : String) : Except Fault PolicyDocument := do
  ofValue (← Json.read machine.jsonRead text)

def toBase64 (machine : Machine) (document : PolicyDocument) : Except Fault String := do
  return String.ofList (Text.Base64.encode (← document.text machine).toUTF8.toList)

def ofBase64 (machine : Machine) (text : String) : Except Fault PolicyDocument :=
  match Text.Base64.decode text.toList with
  | .error .notAscii => .error .badValue
  | .error .openGroup => .error .notBase64
  | .ok octets =>
      match String.fromUTF8? ⟨octets.toArray⟩ with
      | none => .error .notUtf8
      | some text => ofJson machine text

end PolicyDocument

end LaunchPolicy
