import LaunchPolicy.Image.Inspection
import LaunchPolicy.Machine

/-!
What a compilation asks of its surroundings, and what they answer: the inspection of an
image, access to a cluster, the data of a config map.
-/

namespace LaunchPolicy

inductive ConfigMapAnswer where
  | found (data : Fields)
  | refused (reason : Text)
deriving DecidableEq, Repr

structure World where
  machine : Machine := .standard
  /-- By the URI of the image. -/
  inspect : Text → Inspection
  /-- Why the cluster's configuration cannot be loaded, if it cannot. -/
  clusterFailure : Option Text := none
  /-- By namespace and name. -/
  configMap : Text → Text → ConfigMapAnswer

/-- A question to the surroundings, as it is put to them. -/
inductive Call where
  | inspect (command : List Value) (timeout : Value)
  | loadConfiguration (kubeconfig context : Value)
  | loadInClusterConfiguration
  | readConfigMap (map : Text) (space : Value)
deriving DecidableEq, Repr

end LaunchPolicy
