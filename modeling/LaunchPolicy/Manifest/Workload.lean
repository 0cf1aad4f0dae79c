import LaunchPolicy.Manifest.Container
import LaunchPolicy.Manifest.Kind

/-!
A workload read from its manifest: its kind, name and namespace, its containers and init
containers, and the volumes that they share.
-/

namespace LaunchPolicy

structure Workload where
  kind : WorkloadKind
  name : Text := ""
  /-- The namespace, unless the manifest leaves it to the cluster. -/
  space : Option Text := none
  containers : List ContainerEntry := []
  initContainers : List ContainerEntry := []
  volumes : Volumes := []
deriving DecidableEq, Repr

namespace Workload

open Manifest

/-- The name that stands for a workload in notes. -/
def title (workload : Workload) : Text := if workload.name = "" then "<unnamed>" else workload.name

/-- Follows field names through mappings; `problem` says what is missing. -/
def descend (problem : ManifestProblem) (path : FieldPath) : List String → Fields → Read Fields
  | [], fields => .ok fields
  | name :: names, fields =>
      match fields.get? (.text name) with
      | some (.map inner) => descend problem (path.field name) names inner
      | _ => .error (PolicyError.atField (path.field name) problem)

def volumeEntry (path : FieldPath) : Value → Read (Text × Volume)
  | .map fields => do return (← string fields "name" (path.field "name"), Volume.ofFields fields)
  | _ => .error (PolicyError.atField path .volumeNotMapping)

/-- The volumes of a pod, of which a later one replaces an earlier one of its name. -/
def readVolumes (spec : Fields) (path : FieldPath) : Read Volumes := do
  let path := path.field "volumes"
  let entries ← eachItem path (← sequence spec "volumes" path) volumeEntry
  return entries.foldl (fun volumes entry => volumes.put entry.1 entry.2) []

def readContainers (spec : Fields) (key : String) (path : FieldPath) (space : Option Text)
    (cluster : Option ClusterSettings) : Read (List ContainerEntry) := do
  let path := path.field key
  eachItem path (← sequence spec key path) fun entryPath entry =>
    ContainerEntry.ofValue entry entryPath space cluster

/-- The parts of a manifest of a supported kind. -/
def ofFields (document : Fields) (cluster : Option ClusterSettings) : Read Workload := do
  let kind ← WorkloadKind.ofManifest document
  let metadataPath := FieldPath.ofFields ["metadata"]
  let metadata := (← mapping? document "metadata" metadataPath).getD []
  let name ← optionalString metadata "name" (metadataPath.field "name")
  let space ← optionalString metadata "namespace" (metadataPath.field "namespace")
  let space := if space = "" then none else some space
  let spec ← descend .noPodSpec {} kind.podSpecPath document
  let path := FieldPath.ofFields kind.podSpecPath
  let volumes ← readVolumes spec path
  let containers ← readContainers spec "containers" path space cluster
  let initContainers ← readContainers spec "initContainers" path space cluster
  return { kind, name, space, containers, initContainers, volumes }

/-- Reads a document; what is no mapping has the empty kind. -/
def ofDocument (document : Value) (cluster : Option ClusterSettings) : Read Workload :=
  match document with
  | .map fields => ofFields fields cluster
  | _ => .error (WorkloadKind.unsupported "")

/-- Reads a document and notes what was found. -/
def extract (document : Value) (cluster : Option ClusterSettings) : Compile Workload := do
  let workload ← Compile.ofPolicy (ofDocument document cluster)
  Compile.note (.extracted workload.kind.name workload.title workload.containers.length
    workload.initContainers.length workload.volumes.length)
  return workload

end Workload

end LaunchPolicy
