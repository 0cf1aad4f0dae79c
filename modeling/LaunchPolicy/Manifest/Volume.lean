import LaunchPolicy.Fault
import LaunchPolicy.Text.Search

/-!
Volumes of a pod, as far as a mount point depends on them.
-/

namespace LaunchPolicy

inductive VolumeType where
  | unknown
  | emptyDir
  | secret
  | configMap
  | downwardAPI
  | projected
  | hostPath
deriving DecidableEq, Repr

namespace VolumeType

/-- The field that declares a volume of the type. -/
def name : VolumeType → String
  | .unknown => "unknown"
  | .emptyDir => "emptyDir"
  | .secret => "secret"
  | .configMap => "configMap"
  | .downwardAPI => "downwardAPI"
  | .projected => "projected"
  | .hostPath => "hostPath"

/-- Types by precedence: of several declarations the first counts. -/
def declarable : List VolumeType := [.emptyDir, .secret, .configMap, .downwardAPI, .projected, .hostPath]

/-- Types that the kubelet mounts for reading only. -/
def isReadOnly : VolumeType → Bool
  | .secret | .configMap | .downwardAPI | .projected => true
  | _ => false

end VolumeType

structure Volume where
  type : VolumeType := .unknown
  hostPath : Text := ""
  isLocal : Bool := false
deriving DecidableEq, Repr

namespace Volume

def readOnly (volume : Volume) : Bool := volume.type.isReadOnly

/-- The path that a declaration of a host directory names, empty when it names none. -/
def hostPathOf (declaration : Value) : Text :=
  match declaration.get? "path" with
  | some (.text path) => path
  | _ => ""

/-- A volume of a type with its declaration. Only an empty directory without any setting is
local to the guest. -/
def ofDeclaration (type : VolumeType) (declaration : Value) : Volume :=
  match type with
  | .emptyDir => { type, isLocal := declaration == .map [] }
  | .hostPath => { type, hostPath := hostPathOf declaration }
  | _ => { type }

def ofFields (fields : Fields) : Volume :=
  (VolumeType.declarable.findSome? fun type =>
    (fields.get? (.text type.name)).map (ofDeclaration type)).getD {}

/-- A volume of which only the first type in the order of precedence is known. That is too little
where its declaration has to be looked at. -/
def ofMention (isMentioned : String → Bool) : Except Fault Volume :=
  match VolumeType.declarable.find? fun type => isMentioned type.name with
  | none => .ok {}
  | some type => if type.isReadOnly then .ok { type } else .error .wrongType

/-- The volume that a value declares. A text or a list only mentions types. -/
def ofValue : Value → Except Fault Volume
  | .map fields => .ok (ofFields fields)
  | .list items => ofMention fun name => items.contains (.text name)
  | .text text => ofMention fun name => Text.occurs (name.toList.map .char) text.points
  | _ => .error .wrongType

end Volume

/-- The volumes of a pod by name: a repeated name keeps its place and takes the last volume. -/
abbrev Volumes := List (Text × Volume)

namespace Volumes

def get? (volumes : Volumes) (name : Text) : Option Volume :=
  (volumes.find? (·.1 = name)).map (·.2)

def put (volumes : Volumes) (name : Text) (volume : Volume) : Volumes :=
  match volumes with
  | [] => [(name, volume)]
  | (known, old) :: rest =>
      if known = name then (known, volume) :: rest else (known, old) :: put rest name volume

end Volumes

end LaunchPolicy
