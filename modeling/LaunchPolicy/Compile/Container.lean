import LaunchPolicy.Image.Inspect
import LaunchPolicy.Manifest.Container
import LaunchPolicy.Policy.Document
import LaunchPolicy.Policy.Env
import LaunchPolicy.Policy.Mounts
import LaunchPolicy.Rules.Kubelet
import LaunchPolicy.Rules.Runtime

/-!
The policy of one container. Four sources say what it may be launched with, by rising
precedence: the runtime's defaults, the kubelet, the image, and the container's own entry.
-/

namespace LaunchPolicy

structure Declared where
  entryPoint : EntryPoint := {}
  env : List Text := []
  mounts : List Mount := []
deriving DecidableEq, Repr

namespace Declared

/-- What an entry declares; its mounts are left out when there are no volumes to resolve them. -/
def ofEntry (entry : ContainerEntry) (volumes : Option Volumes) : Compile Declared := do
  let entryPoint ← Compile.ofPolicy entry.entryPoint
  let env ← entry.environment
  let mounts ← match volumes with
    | some volumes => Compile.ofPolicy (entry.mounts volumes)
    | none => pure []
  return { entryPoint, env, mounts }

end Declared

namespace ContainerPolicy

/-- Runtime defaults, then the kubelet's rules, the image's and the container's own. -/
def mergeEnv (defaults kubelet : List Value) (image : ImageConfig) (own : List Text) :
    Except Fault (List Value) := do
  let env ← Env.mergeValues defaults kubelet
  let env ← Env.mergeValues env (image.envRules.map .text)
  Env.mergeValues env (own.map .text)

/-- The container's own mounts go before the kubelet's, these before the image's volumes, and
these before the runtime's defaults. -/
def mergeMounts (defaults own kubelet : List Mount) (image : ImageConfig) : Except Fault (List Mount) := do
  let mounts ← Mounts.mergeKeyed own kubelet
  let mounts ← Mounts.mergeKeyed mounts image.volumeMounts
  Mounts.mergeKeyed mounts defaults

/-- Completes a specification of defaults with what the other three sources say. -/
def complete (defaults kubelet : LaunchSpec) (image : ImageConfig) (declared : Declared) :
    Except Failure ContainerPolicy := do
  let entryPoint := declared.entryPoint
  let args ← (EntryPoint.resolveArgs entryPoint.command entryPoint.args image).mapError .policy
  let cwd := EntryPoint.resolveCwd entryPoint.workingDir image
  let env ← (mergeEnv defaults.process.env kubelet.process.env image declared.env).mapError .data
  let mounts ← (mergeMounts defaults.mounts declared.mounts kubelet.mounts image).mapError .data
  let process := { defaults.process with
    args := args.map .text
    cwd := if cwd = "" then defaults.process.cwd else .text cwd
    env }
  return { spec := { defaults with process, mounts } }

/-- The policy of an entry, or of an image alone when there is none. Without the runtime's
defaults the specification starts empty. -/
def build (entry : Option ContainerEntry) (volumes : Option Volumes) (image : ImageConfig)
    (runtime kubelet : LaunchSpec) (withRuntime : Bool) : Compile ContainerPolicy := do
  let declared ← match entry with
    | some entry => Declared.ofEntry entry volumes
    | none => pure {}
  Compile.ofExcept (complete (if withRuntime then runtime else {}) kubelet image declared)

end ContainerPolicy

structure Compiler where
  inspector : InspectorSettings := {}
  pauseImage : Text := Kubelet.defaultPauseImage
deriving DecidableEq, Repr

namespace Compiler

/-- The sandbox's image, the default one when the setting is empty. -/
def pauseImageOf (setting : Option Text) : Text :=
  match setting with
  | some reference => if reference = "" then Kubelet.defaultPauseImage else reference
  | none => Kubelet.defaultPauseImage

/-- The runtime's rules for a container, with a note for each mount that becomes writable. -/
def runtimeRules (privileged tty : Bool) : Compile LaunchSpec := do
  if privileged then
    for mount in Runtime.containerMounts do
      if mount.isWritableWhenPrivileged then Compile.note (.madeWritable mount.destination)
  return Runtime.containerRules privileged tty

def container (compiler : Compiler) (entry : ContainerEntry) (volumes : Volumes)
    (withRuntime : Bool) : Compile ContainerPolicy := do
  let context ← Compile.ofPolicy entry.securityContext
  let tty ← Compile.ofPolicy entry.tty
  let image ← compiler.inspector.fetch (← Compile.ofPolicy entry.image)
  let runtime ← runtimeRules context.privileged tty
  ContainerPolicy.build (some entry) (some volumes) image runtime Kubelet.containerRules withRuntime

def bareImage (compiler : Compiler) (reference : Text) (withRuntime : Bool) :
    Compile ContainerPolicy := do
  let image ← compiler.inspector.fetch reference
  ContainerPolicy.build none none image (Runtime.containerRules false false) {} withRuntime

def sandbox (compiler : Compiler) : Compile ContainerPolicy := do
  Compile.note (.buildingSandbox compiler.pauseImage)
  let image ← compiler.inspector.fetch compiler.pauseImage
  ContainerPolicy.build none none image (Runtime.sandboxRules false false) Kubelet.sandboxRules true

end Compiler

end LaunchPolicy
