import LaunchPolicy.Manifest.Annotation
import LaunchPolicy.Yaml.Graph

/-!
The annotation of a pod in a document whose values may have several places. The policy is
set in the mapping that holds the pod's annotations, and shows wherever that mapping has a
place.
-/

namespace LaunchPolicy.Yaml.Graph

open Manifest (Read)

/-- Sets a field of a mapping to a new value. -/
def setNew (g : Graph) (id : Nat) (name : String) (content : Content) : Graph :=
  let (g, value) := g.add content
  g.setField id name value

def policyContent (policy : String) : Content := .scalar (.text policy)

def annotateMetadata (g : Graph) (metadata : Nat) (path : FieldPath) (policy : String) : Read Graph :=
  let created : Graph :=
    let (g, value) := g.add (policyContent policy)
    g.setNew metadata "annotations" (.map [({ scalar := .text policyAnnotationKey }, value)])
  match g.field? metadata "annotations" with
  | none => .ok created
  | some annotations =>
      match g.content? annotations with
      | some (.scalar .null) => .ok created
      | some (.map _) => .ok (g.setNew annotations policyAnnotationKey (policyContent policy))
      | _ => .error (PolicyError.atField (path.field "annotations") .annotationsNotMapping)

def annotatePod (g : Graph) (pod : Nat) (path : FieldPath) (policy : String) : Read Graph :=
  let path := path.field "metadata"
  match g.field? pod "metadata" with
  | none =>
      let (g, metadata) := g.add (.map [])
      annotateMetadata (g.setField pod "metadata" metadata) metadata path policy
  | some metadata =>
      if g.isMap metadata then annotateMetadata g metadata path policy
      else .error (PolicyError.atField path .metadataNotMapping)

def annotateAt (g : Graph) (policy : String) (id : Nat) (path : FieldPath) : List String → Read Graph
  | [] => g.annotatePod id path policy
  | name :: names =>
      let path := path.field name
      match g.field? id name with
      | some inner =>
          if g.isMap inner then annotateAt g policy inner path names
          else Manifest.misshapen path "pod" .mapping
      | none => Manifest.misshapen path "pod" .mapping

def annotate (g : Graph) (kind : WorkloadKind) (policy : String) : Read Graph :=
  g.annotateAt policy g.root {} kind.templatePath

end LaunchPolicy.Yaml.Graph
