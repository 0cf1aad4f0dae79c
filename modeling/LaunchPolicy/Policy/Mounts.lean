import LaunchPolicy.Policy.Spec

/-!
Mount lists keyed by destination. A later mount takes the place of an earlier one with its
destination; the place is where the destination first appeared.
-/

namespace LaunchPolicy

namespace Mount

/-- Destinations that name a mount point: every value but a collection. -/
def hasKey (mount : Mount) : Bool :=
  match mount.destination with
  | .scalar _ => true
  | _ => false

def sameDestination (a b : Mount) : Bool :=
  match a.destination, b.destination with
  | .scalar s, .scalar t => s.sameKey t
  | x, y => x == y

/-- Mounts of these types become writable in a privileged container. -/
def writableTypes : List Text := ["sysfs", "cgroup"]

def isWritableWhenPrivileged (mount : Mount) : Bool :=
  match mount.type with
  | .text type => type ∈ writableTypes
  | _ => false

/-- Turns the option `ro` into `rw` where a privileged container may write. -/
def adjustPrivileged (mount : Mount) : Mount :=
  if mount.isWritableWhenPrivileged then
    { mount with options := mount.options.map fun option : Text => if option = "ro" then "rw" else option }
  else mount

end Mount

namespace Mounts

/-- Puts a mount in the place of the one with its destination, or last. -/
def place (mounts : List Mount) (mount : Mount) : List Mount :=
  match mounts with
  | [] => [mount]
  | known :: rest => if known.sameDestination mount then mount :: rest else known :: place rest mount

/-- Both lists with each destination once; `mounts` go before `extras` in precedence and
after them in order. -/
def merge (mounts extras : List Mount) : List Mount := (extras ++ mounts).foldl place []

/-- `merge` of mounts whose destinations must turn out to be keys. -/
def mergeKeyed (mounts extras : List Mount) : Except Fault (List Mount) :=
  if (extras ++ mounts).all Mount.hasKey then .ok (merge mounts extras) else .error .wrongType

end Mounts

end LaunchPolicy
