import LaunchPolicy.Error.Report

/-!
What can go wrong between an image reference and the configuration of the image.
-/

namespace LaunchPolicy

inductive ImageProblem where
  | configNotMapping
  | workingDirNotText
  | volumesNotMapping
  /-- A field that must be a list of texts is none. -/
  | notTexts (field : String)
  | timedOut (uri seconds : Text)
  | inspectorMissing (path : Text)
  | inspectorNotRun (reason : Text)
  /-- The inspector failed or printed nothing. -/
  | unavailable (uri complaint : Text)
  | notJson (uri : Text) (cause : Fault)
  | notDocument (uri : Text)
deriving DecidableEq, Repr

namespace ImageProblem

/-- The message, and the diagnostic that follows it. -/
def text (wording : Wording) : ImageProblem → Text × Text
  | .configNotMapping => ("config: failed to parse image config into mapping", "")
  | .workingDirNotText => ("config.WorkingDir: failed to parse into str", "")
  | .volumesNotMapping => ("config.Volumes: failed to parse into mapping", "")
  | .notTexts field => ("config." ++ field ++ ": failed to parse into list of str", "")
  | .timedOut uri seconds => ("skopeo inspect of " ++ uri ++ " timed out after " ++ seconds ++ "s", "")
  | .inspectorMissing path => ("skopeo binary not found", path)
  | .inspectorNotRun reason => ("failed to run skopeo", reason)
  | .unavailable uri complaint => ("failed to get image config with the uri " ++ uri, complaint)
  | .notJson uri cause => ("failed to parse image config of " ++ uri, wording cause)
  | .notDocument uri => ("unexpected image config of " ++ uri, "")

def report (wording : Wording) (problem : ImageProblem) : Report :=
  let (message, diagnostic) := problem.text wording
  Report.collaborator .imageInspect (.text message) (.text diagnostic)

end ImageProblem

end LaunchPolicy
