import LaunchPolicy.Manifest.Workload

/-!
The annotation of a pod that holds its policy.
-/

namespace LaunchPolicy

/-- The annotation in which the guest's runtime looks for its policy. -/
def policyAnnotationKey : String := "io.katacontainers.cc_policy"

namespace Manifest

/-- A field of a mapping that is changed where it is, and last where it is new. -/
def setField (fields : Fields) (key : String) (value : Value) : Fields := fields.put (.text key) value

/-- Sets the annotation among a pod's annotations, which null stands for none of. -/
def annotateMetadata (metadata : Fields) (path : FieldPath) (policy : String) : Read Fields :=
  match (metadata.get? (.text "annotations")).getD .null with
  | .null => .ok (setField metadata "annotations" (.object [(policyAnnotationKey, .text policy)]))
  | .map annotations =>
      .ok (setField metadata "annotations" (.map (setField annotations policyAnnotationKey (.text policy))))
  | _ => .error (PolicyError.atField (path.field "annotations") .annotationsNotMapping)

/-- Sets the annotation in a pod, whose metadata is made when it is absent. -/
def annotatePod (pod : Fields) (path : FieldPath) (policy : String) : Read Fields := do
  let path := path.field "metadata"
  match (pod.get? (.text "metadata")).getD (.map []) with
  | .map metadata =>
      return setField pod "metadata" (.map (← annotateMetadata metadata path policy))
  | _ => .error (PolicyError.atField path .metadataNotMapping)

/-- Sets the annotation in the pod at the end of a path of fields. -/
def annotateAt (policy : String) (path : FieldPath) : List String → Fields → Read Fields
  | [], pod => annotatePod pod path policy
  | name :: names, fields =>
      match fields.get? (.text name) with
      | some (.map inner) => do
          return setField fields name (.map (← annotateAt policy (path.field name) names inner))
      | _ => misshapen (path.field name) "pod" .mapping

def annotate (document : Fields) (kind : WorkloadKind) (policy : String) : Read Fields :=
  annotateAt policy {} kind.templatePath document

/-- The same for a document that need not be a manifest. -/
def annotateValue (document : Value) (kind : WorkloadKind) (policy : String) :
    Except Failure Value :=
  match document, kind.templatePath with
  | .map fields, _ => (annotate fields kind policy).map .map |>.mapError .policy
  | _, name :: _ =>
      .error (.policy (PolicyError.atField (.ofFields [name]) (.notShaped "pod" .mapping)))
  | _, [] => .error (.data .noFields)

end Manifest

end LaunchPolicy
