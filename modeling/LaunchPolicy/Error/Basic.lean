import LaunchPolicy.Cluster.Problem
import LaunchPolicy.Image.Problem
import LaunchPolicy.Manifest.Problem
import LaunchPolicy.Settings.Problem

/-!
The errors of policy compilation by cause, and their reports. A failure is either such an
error or a fault of data that no report covers.
-/

namespace LaunchPolicy

inductive PolicyError where
  | ruleTemplate (template : Value) (cause : Fault)
  | settings (problem : SettingsProblem)
  | noCommand
  | manifest (e : ManifestError)
  | image (problem : ImageProblem)
  | configMap (problem : ConfigMapProblem)
deriving DecidableEq, Repr

namespace PolicyError

def report (wording : Wording) : PolicyError → Report
  | .ruleTemplate template cause =>
      { kind := .ruleTemplate
        message := "invalid mount template " ++ template.quoted ++ ": " ++ wording cause }
  | .settings problem => { kind := .settings, message := problem.text wording }
  | .noCommand => { kind := .noCommand, message := "no command specified" }
  | .manifest e => e.report wording
  | .image problem => problem.report wording
  | .configMap problem => problem.report

def message (wording : Wording) (e : PolicyError) : Text := (e.report wording).message

/-- A document of a kind that has no policy, which a stream passes on unchanged. -/
def isUnsupportedKind : PolicyError → Bool
  | .manifest ⟨.unsupportedKind _, _⟩ => true
  | _ => false

def atField (path : FieldPath) (problem : ManifestProblem) : PolicyError := .manifest ⟨problem, some path⟩

end PolicyError

inductive Failure where
  | policy (e : PolicyError)
  | data (fault : Fault)
deriving DecidableEq, Repr

end LaunchPolicy
