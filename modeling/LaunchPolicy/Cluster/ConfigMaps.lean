import LaunchPolicy.Cluster.Settings
import LaunchPolicy.Session.Basic

/-!
Values of config maps. The cluster's configuration is loaded before the first reading, each
config map is read at most once, and a map that has been read is asked for its keys.
-/

namespace LaunchPolicy.ClusterSettings

/-- Loads the cluster's configuration unless that has been done. -/
def connect (settings : ClusterSettings) : Compile Unit := do
  let session ← get
  if session.connected then return
  Compile.ask (if settings.inCluster.truthy then .loadInClusterConfiguration
    else .loadConfiguration settings.kubeconfig settings.context)
  match (← read).clusterFailure with
  | some reason => Compile.fail (.configMap (.configurationFailed reason))
  | none => modify fun s => { s with connected := true }

def known? (session : Session) (space : Scalar) (map : Text) : Option Fields :=
  (session.maps.find? fun known => known.space.sameKey space && known.map == map).map (·.data)

/-- The data of a config map, from the session or from the cluster. -/
def mapData (settings : ClusterSettings) (space : Scalar) (map : Text) : Compile Fields := do
  match known? (← get) space map with
  | some data => return data
  | none =>
      settings.connect
      Compile.note (.readingConfigMap space.plain map)
      Compile.ask (.readConfigMap map (.scalar space))
      match (← read).configMap space.plain map with
      | .refused reason => Compile.fail (.configMap (.readFailed space.plain map reason))
      | .found data =>
          modify fun s => { s with maps := s.maps ++ [⟨space, map, data⟩] }
          return data

def lookup (data : Fields) (map key : Text) : Except PolicyError Text :=
  match data.get? (.text key) with
  | none => .error (.configMap (.keyMissing key map))
  | some (.text value) => .ok value
  | some _ => .error (.configMap (.valueNotText key map))

/-- The namespace in which a workload's config maps are found. -/
def spaceFor (settings : ClusterSettings) (space : Option Text) : Value :=
  match space with
  | some name => if name = "" then settings.space else .text name
  | none => settings.space

def value (settings : ClusterSettings) (space : Option Text) (map key : Text) : Compile Text := do
  match settings.spaceFor space with
  | .scalar space => Compile.ofPolicy (lookup (← settings.mapData space map) map key)
  | _ => Compile.ofFault (.error .wrongType)

end LaunchPolicy.ClusterSettings
