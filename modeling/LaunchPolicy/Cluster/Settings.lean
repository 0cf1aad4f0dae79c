import LaunchPolicy.Value.Basic

/-!
How a cluster is reached.
-/

namespace LaunchPolicy

structure ClusterSettings where
  kubeconfig : Value := .null
  context : Value := .null
  inCluster : Value := .bool false
  /-- The namespace of workloads that name none. -/
  space : Value := .text "default"
deriving DecidableEq, Repr

end LaunchPolicy
