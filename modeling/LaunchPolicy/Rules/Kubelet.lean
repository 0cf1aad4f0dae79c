import LaunchPolicy.Policy.Spec
import LaunchPolicy.Rules.SharedPath

/-!
What the kubelet adds to every application container, and the image of the sandbox, to
which it adds nothing.
-/

namespace LaunchPolicy.Kubelet

def registry : String := "registry.k8s.io"
def pauseName : String := "pause"
def pauseVersion : String := "3.6"

/-- Four decimal numbers up to 255. -/
def addressPattern : String := "^((25[0-5]|(2[0-4]|1\\d|[1-9]|)\\d).?\\b)\x7b4\x7d"

/-- The variables by which a container finds the services of its namespace. -/
def serviceEnv : List Text :=
  ["^[A-Z0-9_]+_SERVICE_HOST=" ++ addressPattern ++ "$",
   "^[A-Z0-9_]+_SERVICE_PORT=[0-9]+",
   "^[A-Z0-9_]+_SERVICE_PORT_[A-Z]+=[0-9]+",
   "^[A-Z0-9_]+_SERVICE_PORT_[A-Z0-9_]+=[0-9]+",
   "^[A-Z0-9_]+_PORT=[a-z]+://" ++ addressPattern ++ ":[0-9]+",
   "^[A-Z0-9_]+_PORT_[0-9]+_[A-Z]+=[a-z]+://" ++ addressPattern ++ ":[0-9]+",
   "^[A-Z0-9_]+_PORT_[0-9]+_[A-Z]+_PROTO=[a-z]+",
   "^[A-Z0-9_]+_PORT_[0-9]+_[A-Z]+_PORT=[0-9]+",
   "^[A-Z0-9_]+_PORT_[0-9]+_[A-Z]+_ADDR=" ++ addressPattern ++ "$"]

def mounts : List Mount :=
  [{ destination := .text "/dev/termination-log"
     source := .text (sharedContainerPath ++ "termination-log$")
     type := .text "bind"
     options := ["rbind", "rprivate", "rw"] },
   { destination := .text "/var/run/secrets/kubernetes.io/serviceaccount"
     source := .text (sharedContainerPath ++ "serviceaccount$")
     type := .text "bind"
     options := ["rbind", "rprivate", "ro"] }]

def containerRules : LaunchSpec := { process := { env := serviceEnv.map .text }, mounts }

def sandboxRules : LaunchSpec := {}

def pauseImageRef (registry name version : Value) : Text :=
  registry.plain ++ "/" ++ name.plain ++ ":" ++ version.plain

/-- The sandbox image of the release that the rules describe. -/
def defaultPauseImage : Text := pauseImageRef (.text registry) (.text pauseName) (.text pauseVersion)

end LaunchPolicy.Kubelet
