import LaunchPolicy.Error.Report
import LaunchPolicy.Manifest.FieldPath

/-!
What can be wrong with a manifest, and at which field.
-/

namespace LaunchPolicy

inductive Shape where
  | mapping
  | sequence
  | string
  | bool
deriving DecidableEq, Repr

def Shape.text : Shape → String
  | .mapping => "mapping"
  | .sequence => "sequence"
  | .string => "string"
  | .bool => "bool"

inductive ManifestProblem where
  /-- A field or an entry has another shape than it must have. -/
  | notShaped (what : String) (shape : Shape)
  /-- A list of texts holds something else. -/
  | itemNotText (list : String)
  | kindNotText
  | unsupportedKind (kind : Text)
  | noPodSpec
  | volumeNotMapping
  | referenceNotMapping (reference : String)
  | unsupportedReference (sources : List Scalar)
  | volumeNotFound (name : Text)
  | unknownPropagation (mode : Text)
  | metadataNotMapping
  | annotationsNotMapping
  /-- The text of the manifests is not what it should be. -/
  | unreadable (cause : Fault)
deriving DecidableEq, Repr

namespace ManifestProblem

def kind : ManifestProblem → ErrorKind
  | .unsupportedKind _ => .unsupportedKind
  | .unsupportedReference _ => .unsupportedReference
  | .volumeNotFound _ => .volumeNotFound
  | .unknownPropagation _ => .mountPropagation
  | _ => .manifest

def text (wording : Wording) : ManifestProblem → Text
  | .notShaped what shape => "failed to parse " ++ what ++ " into " ++ shape.text
  | .itemNotText list => "failed to parse " ++ list ++ " item into string"
  | .kindNotText => "failed to parse kind into str"
  | .unsupportedKind kind => "unsupported kind: " ++ kind
  | .noPodSpec => "failed to find pod spec"
  | .volumeNotMapping => "failed to convert volume into mapping"
  | .referenceNotMapping reference => "failed in convert " ++ reference ++ " into map"
  | .unsupportedReference sources => "unsupported reference: " ++ Value.quoted (.list (sources.map .scalar))
  | .volumeNotFound name => "failed to find volume " ++ name
  | .unknownPropagation mode => "unknown mountPropagation type: " ++ mode
  | .metadataNotMapping => "failed to get metadata"
  | .annotationsNotMapping => "failed to get annotations"
  | .unreadable cause => "failed to parse manifest: " ++ wording cause

end ManifestProblem

/-- A problem and the field at fault; a text that cannot be read has no field. -/
structure ManifestError where
  problem : ManifestProblem
  path : Option FieldPath
deriving DecidableEq, Repr

namespace ManifestError

def report (wording : Wording) (e : ManifestError) : Report :=
  match e.problem with
  | .unsupportedKind kind => Report.unsupportedKind (.text kind)
  | problem =>
      Report.manifest problem.kind (.text (problem.text wording))
        (match e.path with
         | some path => .text path.text
         | none => .null)

end ManifestError

end LaunchPolicy
