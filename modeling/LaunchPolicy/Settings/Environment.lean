import LaunchPolicy.Settings.File
import LaunchPolicy.Text.Blank

/-!
Settings from the environment. A variable that is set and not empty takes the place of the
setting that a configuration file has.
-/

namespace LaunchPolicy

abbrev Environment := String → Option String

namespace Settings

def names : List String :=
  ["CCPOLICY_CONFIG_FILE", "CCPOLICY_SKOPEO_PATH", "CCPOLICY_REGISTRY_TIMEOUT", "CCPOLICY_KUBECONFIG",
    "CCPOLICY_KUBE_CONTEXT", "CCPOLICY_NAMESPACE", "CCPOLICY_PAUSE_IMAGE_VERSION",
    "CCPOLICY_WITH_DEFAULT_RULES"]

/-- The value of a variable, unless it is empty. -/
def given? (environment : Environment) (name : String) : Option String :=
  match environment name with
  | some value => if value.isEmpty then none else some value
  | none => none

/-- Words that switch a setting on. -/
def switchOn : List String := ["1", "true", "yes", "on"]

/-- Whether a word switches a setting on; case and white space around it do not matter. -/
def isOn (word : String) : Bool :=
  switchOn.contains (String.ofList ((Text.strip word.toList).map Char.toLower))

def timeoutOf (text : String) : Except PolicyError Value :=
  match Text.integer? text.toList with
  | some seconds => .ok (.int seconds)
  | none => .error (.settings (.timeoutNotInteger text))

/-- The time limit of the environment, or else of other settings. -/
def timeoutIn (settings : Settings) (environment : Environment) : Except PolicyError Value :=
  match given? environment "CCPOLICY_REGISTRY_TIMEOUT" with
  | some text => timeoutOf text
  | none => .ok settings.inspector.timeout

/-- Puts the environment's settings in the places of others. -/
def withEnvironment (settings : Settings) (environment : Environment) : Except PolicyError Settings := do
  let value (name : String) (default : Value) : Value :=
    ((given? environment name).map fun value => .text value).getD default
  let timeout ← settings.timeoutIn environment
  return {
    inspector := { settings.inspector with
      path := value "CCPOLICY_SKOPEO_PATH" settings.inspector.path
      timeout }
    cluster := { settings.cluster with
      kubeconfig := value "CCPOLICY_KUBECONFIG" settings.cluster.kubeconfig
      context := value "CCPOLICY_KUBE_CONTEXT" settings.cluster.context
      space := value "CCPOLICY_NAMESPACE" settings.cluster.space }
    sandbox := { settings.sandbox with
      version := ((given? environment "CCPOLICY_PAUSE_IMAGE_VERSION").map .string).getD settings.sandbox.version }
    withRuntime := match given? environment "CCPOLICY_WITH_DEFAULT_RULES" with
      | some word => isOn word
      | none => settings.withRuntime }

/-- The settings of the environment over those of the configuration file that it names. -/
def ofEnvironment (machine : Machine) (files : Files) (environment : Environment) :
    Except Failure Settings := do
  let settings ← match given? environment "CCPOLICY_CONFIG_FILE" with
    | some path => ofFile machine files path
    | none => pure {}
  (settings.withEnvironment environment).mapError .policy

end Settings

end LaunchPolicy
