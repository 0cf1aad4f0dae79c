import LaunchPolicy.Error.Report

/-!
What can go wrong when a key of a config map is looked up.
-/

namespace LaunchPolicy

inductive ConfigMapProblem where
  /-- No cluster is configured. -/
  | noSource (key map : Text)
  | configurationFailed (reason : Text)
  | readFailed (space map reason : Text)
  | keyMissing (key map : Text)
  | valueNotText (key map : Text)
deriving DecidableEq, Repr

namespace ConfigMapProblem

/-- The message, and the diagnostic that follows it. -/
def text : ConfigMapProblem → Text × Text
  | .noSource key map =>
      ("cannot resolve key " ++ key ++ " of configMap " ++ map ++ ": no config map source", "")
  | .configurationFailed reason => ("failed to load Kubernetes configuration", reason)
  | .readFailed space map reason => ("failed to read configMap " ++ space ++ "/" ++ map, reason)
  | .keyMissing key map => ("failed to find value using key " ++ key ++ " from configMap " ++ map, "")
  | .valueNotText key map => ("value of key " ++ key ++ " in configMap " ++ map ++ " is not a string", "")

def report (problem : ConfigMapProblem) : Report :=
  Report.collaborator .configMapLookup (.text problem.text.1) (.text problem.text.2)

end ConfigMapProblem

end LaunchPolicy
