import LaunchPolicy.Cluster.Settings
import LaunchPolicy.Image.Inspection
import LaunchPolicy.Machine
import LaunchPolicy.Rules.Kubelet

/-!
Settings of a compilation: how images are inspected, how the cluster is reached, which
image the sandbox runs, and whether the runtime's defaults are part of a policy. Settings
that nobody interprets keep the value that they were given.
-/

namespace LaunchPolicy

structure SandboxSettings where
  registry : Value := .text Kubelet.registry
  name : Value := .text Kubelet.pauseName
  version : Text := Kubelet.pauseVersion
deriving DecidableEq, Repr

structure Settings where
  inspector : InspectorSettings := {}
  cluster : ClusterSettings := {}
  sandbox : SandboxSettings := {}
  withRuntime : Bool := false
deriving DecidableEq, Repr

namespace InspectorSettings

def toValue (settings : InspectorSettings) : Value :=
  .object [("skopeo_path", settings.path), ("default_registry", settings.registry),
    ("default_transport", settings.transport), ("timeout_seconds", settings.timeout),
    ("extra_args", .list settings.extraArguments)]

def ofValue (v : Value) : Except Fault InspectorSettings := do
  let standard : InspectorSettings := {}
  return {
    path := ← v.field "skopeo_path" standard.path
    registry := ← v.field "default_registry" standard.registry
    transport := ← v.field "default_transport" standard.transport
    timeout := .int (← (← v.field "timeout_seconds" standard.timeout).integer)
    extraArguments := ← (← v.field "extra_args" (.list [])).items }

end InspectorSettings

namespace ClusterSettings

def toValue (settings : ClusterSettings) : Value :=
  .object [("kubeconfig", settings.kubeconfig), ("context", settings.context),
    ("in_cluster", settings.inCluster), ("namespace", settings.space)]

def ofValue (v : Value) : Except Fault ClusterSettings := do
  let standard : ClusterSettings := {}
  return {
    kubeconfig := ← v.field "kubeconfig" standard.kubeconfig
    context := ← v.field "context" standard.context
    inCluster := ← v.field "in_cluster" standard.inCluster
    space := ← v.field "namespace" standard.space }

end ClusterSettings

namespace SandboxSettings

def toValue (settings : SandboxSettings) : Value :=
  .object [("registry", settings.registry), ("name", settings.name), ("version", .text settings.version)]

/-- A version may be written as anything that has a text. -/
def ofValue (machine : Machine) (v : Value) : Except Fault SandboxSettings := do
  let standard : SandboxSettings := {}
  let registry ← v.field "registry" standard.registry
  let name ← v.field "name" standard.name
  let version ← v.field "version" (.text standard.version)
  match version.textFault? machine.shown with
  | none => return { registry, name, version := version.plain }
  | some fault => throw fault

def image (settings : SandboxSettings) : Text :=
  Kubelet.pauseImageRef settings.registry settings.name (.text settings.version)

end SandboxSettings

namespace Settings

def toValue (settings : Settings) : Value :=
  .object [("registry", settings.inspector.toValue), ("cluster", settings.cluster.toValue),
    ("sandbox", settings.sandbox.toValue), ("with_default_rules", .bool settings.withRuntime)]

/-- A section, without any setting where it is absent or empty in any way. -/
def section? (v : Value) (name : String) : Except Fault Value := do
  let found ← v.field name .null
  return if found.truthy then found else .map []

def ofValue (machine : Machine) (v : Value) : Except Fault Settings := do
  return {
    inspector := ← InspectorSettings.ofValue (← section? v "registry")
    cluster := ← ClusterSettings.ofValue (← section? v "cluster")
    sandbox := ← SandboxSettings.ofValue machine (← section? v "sandbox")
    withRuntime := (← v.field "with_default_rules" (.bool false)).truthy }

def text (machine : Machine) (settings : Settings) : Except Fault String :=
  Json.write machine.jsonWritten (.spaces 2) settings.toValue

end Settings

end LaunchPolicy
