import LaunchPolicy.Cluster.ConfigMaps
import LaunchPolicy.Proofs.Session.Run

/-!
One reading of a config map, case by case: what comes of it, what it asks of the cluster, and which
session it leaves.
-/

namespace LaunchPolicy.ClusterSettings

/-- The question that loads the cluster's configuration. -/
def loading (settings : ClusterSettings) : Call :=
  if settings.inCluster.truthy then .loadInClusterConfiguration
  else .loadConfiguration settings.kubeconfig settings.context

/-- What has to be asked of the cluster before a map can be read. -/
def loadings (settings : ClusterSettings) (session : Session) : List Call :=
  if session.connected then [] else [settings.loading]

def reachable (world : World) (session : Session) : Prop :=
  session.connected = true ∨ world.clusterFailure = none

/-- The ways in which a config map is read in a session: the outcome, the questions that are asked,
and the session afterwards. -/
inductive Reading (settings : ClusterSettings) (world : World) (space : Scalar) (map : Text)
    (session : Session) : Except Failure Fields → List Call → Session → Prop
  | known {data : Fields} (known : known? session space map = some data) :
      Reading settings world space map session (.ok data) [] session
  | unreachable {reason : Text} (unknown : known? session space map = none)
      (apart : session.connected = false) (failed : world.clusterFailure = some reason) :
      Reading settings world space map session
        (.error (.policy (.configMap (.configurationFailed reason)))) [settings.loading]
        { session with calls := session.calls ++ [settings.loading] }
  | refused {reason : Text} (unknown : known? session space map = none)
      (reached : reachable world session)
      (answer : world.configMap space.plain map = .refused reason) :
      Reading settings world space map session
        (.error (.policy (.configMap (.readFailed space.plain map reason))))
        (settings.loadings session ++ [.readConfigMap map (.scalar space)])
        { session with
          connected := true
          calls := session.calls ++ (settings.loadings session ++ [.readConfigMap map (.scalar space)])
          events := session.events ++ [.readingConfigMap space.plain map] }
  | found {data : Fields} (unknown : known? session space map = none)
      (reached : reachable world session)
      (answer : world.configMap space.plain map = .found data) :
      Reading settings world space map session (.ok data)
        (settings.loadings session ++ [.readConfigMap map (.scalar space)])
        { session with
          connected := true
          maps := session.maps ++ [⟨space, map, data⟩]
          calls := session.calls ++ (settings.loadings session ++ [.readConfigMap map (.scalar space)])
          events := session.events ++ [.readingConfigMap space.plain map] }

variable {settings : ClusterSettings} {world : World} {session : Session}

theorem run_connect_reached (reached : reachable world session) :
    settings.connect.run world session =
      (.ok (), { session with
        connected := true
        calls := session.calls ++ settings.loadings session }) := by
  rw [connect, Compile.run_bind, Compile.run_get]
  cases connected : session.connected with
  | true =>
      have same : session = { session with connected := true } := by rw [← connected]
      simp only [if_true, Compile.run_pure, loadings, connected, List.append_nil]
      exact congrArg _ same
  | false =>
      have loads : world.clusterFailure = none := by simpa [reachable, connected] using reached
      simp only [Bool.false_eq_true, if_false, Compile.run_bind, Compile.run_ask, Compile.run_read,
        loads, Compile.run_modify, loadings, loading, connected]

theorem run_connect_failed {reason : Text} (apart : session.connected = false)
    (failed : world.clusterFailure = some reason) :
    settings.connect.run world session =
      (.error (.policy (.configMap (.configurationFailed reason))),
        { session with calls := session.calls ++ [settings.loading] }) := by
  rw [connect, Compile.run_bind, Compile.run_get]
  simp only [apart, Bool.false_eq_true, if_false, Compile.run_bind, Compile.run_ask,
    Compile.run_read, failed]
  rfl

theorem reachable_or_failed (world : World) (session : Session) :
    reachable world session ∨
      ∃ reason, session.connected = false ∧ world.clusterFailure = some reason := by
  cases connected : session.connected with
  | true => exact .inl (.inl connected)
  | false =>
      cases failure : world.clusterFailure with
      | none => exact .inl (.inr failure)
      | some reason => exact .inr ⟨reason, rfl, rfl⟩

/-- There is no other way to read a config map. -/
theorem map_data_reading (settings : ClusterSettings) (world : World) (space : Scalar)
    (map : Text) (session : Session) :
    ∃ outcome asked after, (settings.mapData space map).run world session = (outcome, after) ∧
      settings.Reading world space map session outcome asked after := by
  rw [mapData, Compile.run_bind, Compile.run_get]
  simp only
  cases found : known? session space map with
  | some data => exact ⟨_, _, _, rfl, .known found⟩
  | none =>
      rcases reachable_or_failed world session with reached | ⟨reason, apart, failed⟩
      · simp only [Compile.run_bind, run_connect_reached reached, Compile.run_note,
          Compile.run_ask, Compile.run_read, List.append_assoc]
        cases answer : world.configMap space.plain map with
        | refused reason => exact ⟨_, _, _, rfl, .refused found reached answer⟩
        | found data => exact ⟨_, _, _, rfl, .found found reached answer⟩
      · simp only [Compile.run_bind, run_connect_failed apart failed]
        exact ⟨_, _, _, rfl, .unreachable found apart failed⟩

/-- The session and its surroundings leave one way open. -/
theorem Reading.unique {space : Scalar} {map : Text} {outcome other : Except Failure Fields}
    {asked otherAsked : List Call} {after otherAfter : Session}
    (reads : settings.Reading world space map session outcome asked after)
    (otherReads : settings.Reading world space map session other otherAsked otherAfter) :
    outcome = other ∧ asked = otherAsked ∧ after = otherAfter := by
  cases reads with
  | known => cases otherReads <;> simp_all
  | unreachable => cases otherReads <;> simp_all [reachable]
  | refused => cases otherReads <;> simp_all [reachable]
  | found => cases otherReads <;> simp_all [reachable]

theorem known_append {after : Session} {map : Text} {s : Scalar} {data : Fields}
    (maps : after.maps = session.maps ++ [⟨s, map, data⟩]) (t : Scalar) (other : Text) :
    known? after t other = (known? session t other).or
      (if s.sameKey t && map == other then some data else none) := by
  rw [known?, maps, List.find?_append, known?]
  -- a map that was known is found first, as the new one stands behind it
  cases session.maps.find? fun known => known.space.sameKey t && known.map == other with
  | some found => rfl
  | none =>
      rw [List.find?_singleton]
      split <;> rfl

end LaunchPolicy.ClusterSettings
