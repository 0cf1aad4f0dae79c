import LaunchPolicy.Cluster.ConfigMaps
import LaunchPolicy.Manifest.Field
import LaunchPolicy.Manifest.Volume
import LaunchPolicy.Policy.EntryPoint
import LaunchPolicy.Value.Order

/-!
A container entry of a workload and what it declares. Each reader reads its own fields
only, so a malformed field fails only what needs it.
-/

namespace LaunchPolicy

/-- An entry, where it stands, the workload's namespace and the cluster that resolves
references to config maps, if there is one. -/
structure ContainerEntry where
  fields : Fields
  path : FieldPath
  space : Option Text := none
  cluster : Option ClusterSettings := none
deriving DecidableEq, Repr

structure SecurityContext where
  privileged : Bool := false
  allowPrivilegeEscalation : Bool := false
deriving DecidableEq, Repr

namespace ContainerEntry

open Manifest

def ofValue (entry : Value) (path : FieldPath) (space : Option Text)
    (cluster : Option ClusterSettings) : Read ContainerEntry :=
  match entry with
  | .map fields => .ok { fields, path, space, cluster }
  | _ => misshapen path "container" .mapping

def name (entry : ContainerEntry) : Read Text := string entry.fields "name" (entry.path.field "name")

def image (entry : ContainerEntry) : Read Text := string entry.fields "image" (entry.path.field "image")

def securityContext (entry : ContainerEntry) : Read SecurityContext := do
  let path := entry.path.field "securityContext"
  match ← mapping? entry.fields "securityContext" path with
  | none => return {}
  | some context =>
      return {
        privileged := ← flag context "privileged" (path.field "privileged")
        allowPrivilegeEscalation :=
          ← flag context "allowPrivilegeEscalation" (path.field "allowPrivilegeEscalation") }

def tty (entry : ContainerEntry) : Read Bool := flag entry.fields "tty" (entry.path.field "tty")

def entryPoint (entry : ContainerEntry) : Read EntryPoint := do
  return {
    workingDir := ← optionalString entry.fields "workingDir" (entry.path.field "workingDir")
    command := ← strings entry.fields "command" (entry.path.field "command")
    args := ← strings entry.fields "args" (entry.path.field "args") }

/-! Environment -/

/-- References whose value is known only at launch. -/
def launchTimeReferences : List String := ["secretKeyRef", "fieldRef", "resourceFieldRef"]

def configMapValue (entry : ContainerEntry) (reference : Value) (path : FieldPath) : Compile Text := do
  match reference with
  | .map fields => do
      let map ← Compile.ofPolicy (string fields "name" (path.field "name"))
      let key ← Compile.ofPolicy (string fields "key" (path.field "key"))
      match entry.cluster with
      | none => Compile.fail (.configMap (.noSource key map))
      | some cluster => cluster.value entry.space map key
  | _ => Compile.fail (PolicyError.atField path (.referenceNotMapping "configMapKeyRef"))

/-- The rule for a variable whose value comes from elsewhere: config map values are resolved
and pinned, values known only at launch may be anything but empty. -/
def referenceRule (entry : ContainerEntry) (entryFields : Fields) (name : Text) (path : FieldPath) :
    Compile Text := do
  match ← Compile.ofPolicy (mapping? entryFields "valueFrom" path) with
  | none => return name ++ "="
  | some sources =>
      match sources.get? (.text "configMapKeyRef") with
      | some reference =>
          let value ← entry.configMapValue reference (path.field "configMapKeyRef")
          return "^" ++ name ++ "=" ++ value ++ "$"
      | none =>
          if launchTimeReferences.any fun source => Fields.contains sources (.text source) then
            return "^" ++ name ++ "=."
          else
            match Scalar.sorted? (sources.map (·.1)) with
            | some listed =>
                if listed.all Scalar.hasText then
                  Compile.fail (PolicyError.atField path (.unsupportedReference listed))
                else Compile.ofFault (.error .badValue)
            | none => Compile.ofFault (.error .wrongType)

def environmentRule (entry : ContainerEntry) (path : FieldPath) : Value → Compile Text
  | .map entryFields => do
      let name ← Compile.ofPolicy (string entryFields "name" (path.field "name"))
      if Fields.contains entryFields (.text "value") then
        return name ++ "=" ++ (← Compile.ofPolicy (string entryFields "value" (path.field "value")))
      else entry.referenceRule entryFields name (path.field "valueFrom")
  | _ => Compile.ofPolicy (misshapen path "env" .mapping)

def environment (entry : ContainerEntry) : Compile (List Text) := do
  let path := entry.path.field "env"
  eachItem path (← Compile.ofPolicy (sequence entry.fields "env" path)) entry.environmentRule

/-! Mounts -/

def propagationOption? : Text → Option String
  | .string "None" => some "rprivate"
  | .string "HostToContainer" => some "rslave"
  | .string "Bidirectional" => some "rshared"
  | _ => none

/-- The mode of a volume mount; unlike other fields it must not be null. -/
def propagation (fields : Fields) (path : FieldPath) : Read Text :=
  match (fields.get? (.text "mountPropagation")).getD (.text "None") with
  | .text mode => .ok mode
  | _ => misshapen path "mountPropagation" .string

/-- A mount of a volume of the pod; what the volume makes read-only stays so. -/
def mount (volumes : Volumes) (path : FieldPath) : Value → Read Mount
  | .map fields => do
      let destination ← string fields "mountPath" (path.field "mountPath")
      let mode ← propagation fields (path.field "mountPropagation")
      let name ← string fields "name" (path.field "name")
      match volumes.get? name with
      | none => .error (PolicyError.atField (path.field "name") (.volumeNotFound name))
      | some volume =>
          let readOnly ←
            if volume.readOnly then pure true else flag fields "readOnly" (path.field "readOnly")
          match propagationOption? mode with
          | none =>
              .error (PolicyError.atField (path.field "mountPropagation") (.unknownPropagation mode))
          | some option =>
              return {
                destination := .text destination
                source := .text volume.hostPath
                type := .text (if volume.isLocal then "local" else "bind")
                options := ["rbind", option, if readOnly then "ro" else "rw"] }
  | _ => misshapen path "volumeMount" .mapping

def mounts (entry : ContainerEntry) (volumes : Volumes) : Read (List Mount) := do
  let path := entry.path.field "volumeMounts"
  eachItem path (← sequence entry.fields "volumeMounts" path) (mount volumes)

end ContainerEntry

end LaunchPolicy
