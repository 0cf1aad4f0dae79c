import LaunchPolicy.Error.Basic

/-!
Kinds of workloads, and where each keeps its pod.
-/

namespace LaunchPolicy

inductive WorkloadKind where
  | pod
  | job
  | deployment
  | replicationController
deriving DecidableEq, Repr

namespace WorkloadKind

def all : List WorkloadKind := [.pod, .job, .deployment, .replicationController]

theorem mem_all (kind : WorkloadKind) : kind ∈ all := by cases kind <;> simp [all]

def name : WorkloadKind → String
  | .pod => "Pod"
  | .job => "Job"
  | .deployment => "Deployment"
  | .replicationController => "ReplicationController"

def ofName? (name : Text) : Option WorkloadKind := all.find? (·.name = name)

theorem of_name_name (kind : WorkloadKind) : ofName? kind.name = some kind := by
  cases kind <;> decide

/-- Where the pod or its template is, with metadata and spec. -/
def templatePath : WorkloadKind → List String
  | .pod => []
  | _ => ["spec", "template"]

/-- Where the pod's containers and volumes are. -/
def podSpecPath (kind : WorkloadKind) : List String := kind.templatePath ++ ["spec"]

def unsupported (name : Text) : PolicyError :=
  PolicyError.atField (.ofFields ["kind"]) (.unsupportedKind name)

/-- The kind that a manifest names; a manifest without one names the empty kind. -/
def ofManifest (document : Fields) : Except PolicyError WorkloadKind :=
  match (document.get? (.text "kind")).getD (.text "") with
  | .text name =>
      match ofName? name with
      | some kind => .ok kind
      | none => .error (unsupported name)
  | _ => .error (PolicyError.atField (.ofFields ["kind"]) .kindNotText)

end WorkloadKind

end LaunchPolicy
