import LaunchPolicy.Error.Basic
import LaunchPolicy.Policy.Mounts
import LaunchPolicy.Rules.SharedPath

/-!
What the container runtime puts into every specification it creates: the root user, the
`HOSTNAME`, `PATH` and `TERM` variables, and the mounts of the kernel's file systems.
-/

namespace LaunchPolicy.Runtime

def hostnameEnv : Text := "^HOSTNAME=.+"
def pathEnv : Text := "^PATH=/usr/local/sbin:/usr/local/bin:/usr/sbin:/usr/bin:/sbin:/bin$"
def termEnv : Text := "TERM=xterm"

private def mount (destination source type : String) (options : List Text) : Mount :=
  { destination := .text destination, source := .text source, type := .text type, options }

def defaultMounts : List Mount :=
  [mount "/proc" "^proc$" "proc" ["nosuid", "noexec", "nodev"],
   mount "/dev" "^tmpfs$" "tmpfs" ["nosuid", "strictatime", "mode=755", "size=65536k"],
   mount "/dev/pts" "^devpts$" "devpts"
     ["nosuid", "noexec", "newinstance", "ptmxmode=0666", "mode=0620", "gid=5"],
   mount "/dev/mqueue" "^mqueue$" "mqueue" ["nosuid", "noexec", "nodev"],
   mount "/dev/shm" "^/run/kata-containers/sandbox/shm$" "bind" ["rbind"],
   mount "/sys" "^sysfs$" "sysfs" ["nosuid", "noexec", "nodev", "ro"]]

def cgroupMount : Mount :=
  mount "/sys/fs/cgroup" "^cgroup$" "cgroup" ["nosuid", "noexec", "nodev", "relatime", "ro"]

/-- The files under `/etc` that the runtime writes for a container. -/
def etcMounts : List Mount :=
  [mount "/etc/hostname" (sharedContainerPath ++ "hostname$") "bind" ["rbind", "rprivate", "rw"],
   mount "/etc/hosts" (sharedContainerPath ++ "hosts$") "bind" ["rbind", "rprivate", "rw"],
   mount "/etc/resolv.conf" (sharedContainerPath ++ "resolv.conf$") "bind" ["rbind", "rprivate", "rw"]]

def sandboxResolvMount : Mount :=
  mount "/etc/resolv.conf" (sharedContainerPath ++ "resolv.conf$") "bind" ["rbind", "ro"]

def rules (env : List Text) (mounts : List Mount) (privileged tty : Bool) : LaunchSpec where
  ociVersion := .text ociVersion
  process := { cwd := .text "/", env := env.map .text, terminal := tty }
  mounts := if privileged then mounts.map Mount.adjustPrivileged else mounts

def containerEnv (tty : Bool) : List Text := [hostnameEnv, pathEnv] ++ if tty then [termEnv] else []

def sandboxEnv (tty : Bool) : List Text := if tty then [termEnv] else []

def containerMounts : List Mount := defaultMounts ++ [cgroupMount] ++ etcMounts

def sandboxMounts : List Mount := defaultMounts ++ [sandboxResolvMount]

def containerRules (privileged tty : Bool) : LaunchSpec :=
  rules (containerEnv tty) containerMounts privileged tty

/-- The sandbox has no name, no search path and no cgroup mount of its own. -/
def sandboxRules (privileged tty : Bool) : LaunchSpec :=
  rules (sandboxEnv tty) sandboxMounts privileged tty

/-- Mounts read from templates; a template that is no mount is reported with its fault. -/
def loadMounts (templates : List Value) : Except PolicyError (List Mount) :=
  templates.mapM fun template =>
    match Mount.ofValue template with
    | .ok mount => .ok mount
    | .error fault => .error (.ruleTemplate template fault)

end LaunchPolicy.Runtime
