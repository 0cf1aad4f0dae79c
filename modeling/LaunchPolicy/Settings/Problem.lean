import LaunchPolicy.Error.Report
import LaunchPolicy.Files.Basic

/-!
What can be wrong with a configuration file or a setting of the environment.
-/

namespace LaunchPolicy

inductive SettingsProblem where
  | notLoaded (path : String) (cause : FileProblem)
  | notMapping (path : String)
  | invalid (path : String) (cause : Fault)
  | timeoutNotInteger (text : String)
deriving DecidableEq, Repr

namespace SettingsProblem

def text (wording : Wording) : SettingsProblem → Text
  | .notLoaded path (.refused refusal) =>
      "failed to load configuration " ++ path ++ ": " ++ refusal.text path
  | .notLoaded path (.faulty cause) => "failed to load configuration " ++ path ++ ": " ++ wording cause
  | .notMapping path => "configuration " ++ path ++ " must be a mapping"
  | .invalid path cause => "invalid configuration " ++ path ++ ": " ++ wording cause
  | .timeoutNotInteger text =>
      "CCPOLICY_REGISTRY_TIMEOUT must be an integer, got " ++ Scalar.quoted (.text text)

end SettingsProblem

end LaunchPolicy
