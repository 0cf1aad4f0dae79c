import LaunchPolicy.Compile.Container
import LaunchPolicy.Image.Reference
import LaunchPolicy.Manifest.Workload
import LaunchPolicy.Settings.Basic

/-!
The policy document of a workload: containers in the order of the manifest, init containers
after them, and last the sandbox when the runtime's defaults are part of a policy. A later
container replaces an earlier one of its name. A container that fails fails the document.
-/

namespace LaunchPolicy

/-- The name of the sandbox in policy documents. -/
def sandboxName : String := "pause"

structure WorkloadCompiler extends Compiler where
  cluster : Option ClusterSettings := none
  withRuntime : Bool := false
deriving DecidableEq, Repr

namespace WorkloadCompiler

def ofSettings (settings : Settings) : WorkloadCompiler where
  inspector := settings.inspector
  pauseImage := Compiler.pauseImageOf (some settings.sandbox.image)
  cluster := some settings.cluster
  withRuntime := settings.withRuntime

def addContainer (compiler : WorkloadCompiler) (volumes : Volumes) (document : PolicyDocument)
    (entry : ContainerEntry) : Compile PolicyDocument := do
  let name ← Compile.ofPolicy entry.name
  let policy ← compiler.container entry volumes compiler.withRuntime
  let process := policy.spec.process
  Compile.note (.containerCompiled name process.args.length process.env.length policy.spec.mounts.length)
  return document.add name policy

def policies (compiler : WorkloadCompiler) (workload : Workload) : Compile PolicyDocument := do
  let entries := workload.containers ++ workload.initContainers
  let document ← entries.foldlM (compiler.addContainer workload.volumes) {}
  if compiler.withRuntime then return document.add sandboxName (← compiler.sandbox)
  return document

def document (compiler : WorkloadCompiler) (workload : Workload) : Compile PolicyDocument := do
  let kind := workload.kind.name
  Compile.note (.documentStarted kind workload.title)
  let document ← tryCatch (compiler.policies workload) fun failure => do
    if let .policy reason := failure then Compile.note (.documentFailed kind workload.title reason)
    throw failure
  Compile.note (.documentCompiled kind workload.title document.size)
  return document

def ofManifest (compiler : WorkloadCompiler) (manifest : Value) : Compile (Workload × PolicyDocument) := do
  let workload ← Workload.extract manifest compiler.cluster
  return (workload, ← compiler.document workload)

/-- The policy document of a bare image, under the key of its reference. -/
def ofImage (compiler : WorkloadCompiler) (reference : Text) : Compile PolicyDocument := do
  let policy ← compiler.bareImage reference compiler.withRuntime
  let document := PolicyDocument.add {} (ImageReference.key reference) policy
  Compile.note (.documentCompiled "image" reference document.size)
  return document

end WorkloadCompiler

end LaunchPolicy
