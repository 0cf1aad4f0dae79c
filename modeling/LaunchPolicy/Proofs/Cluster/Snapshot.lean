import LaunchPolicy.Proofs.Cluster.Reading
import LaunchPolicy.Proofs.Session.Steady
import Mathlib.Data.List.Induction

/-!
A source of config map values over its life, while the cluster changes between the requests. A map
is read once and answers from then on as it was; what fails leaves nothing behind, so it is tried
again; the configuration is loaded once; and the maps of one namespace do not show in another.
-/

namespace LaunchPolicy

/-- A request for a value, in the surroundings that it meets. -/
structure Request where
  world : World
  space : Option Text
  map : Text
  key : Text

namespace ClusterSettings

def serve (settings : ClusterSettings) (session : Session) (request : Request) :
    Except Failure Text × Session :=
  (settings.value request.space request.map request.key).run request.world session

/-- The session of a new source after some requests, oldest first. -/
def served (settings : ClusterSettings) (requests : List Request) : Session :=
  requests.foldl (fun session request => (settings.serve session request).2) {}

/-- What a request is answered after earlier ones. -/
def answer (settings : ClusterSettings) (earlier : List Request) (request : Request) :
    Except Failure Text := (settings.serve (settings.served earlier) request).1

/-- What a request makes the source ask of the cluster. -/
def asked (settings : ClusterSettings) (earlier : List Request) (request : Request) : List Call :=
  (settings.served (earlier ++ [request])).calls.drop (settings.served earlier).calls.length

/-- A request reads a config map: the cluster is asked for it and has it. -/
def Reads (settings : ClusterSettings) (earlier : List Request) (request : Request)
    (space : Scalar) (map : Text) (data : Fields) : Prop :=
  .readConfigMap map (.scalar space) ∈ settings.asked earlier request ∧
    request.world.configMap space.plain map = .found data

/-- A request loads the configuration: the cluster is asked to, and it can be done. -/
def Loads (settings : ClusterSettings) (earlier : List Request) (request : Request) : Prop :=
  settings.loading ∈ settings.asked earlier request ∧ request.world.clusterFailure = none

def HasRead (settings : ClusterSettings) (requests : List Request) (space : Scalar) (map : Text)
    (data : Fields) : Prop :=
  ∃ before reader, before ++ [reader] <+: requests ∧ settings.Reads before reader space map data

def HasLoaded (settings : ClusterSettings) (requests : List Request) : Prop :=
  ∃ before loader, before ++ [loader] <+: requests ∧ settings.Loads before loader

/-- The value that the data of a config map has for a request. -/
def valueOf (data : Fields) (request : Request) : Except Failure Text :=
  (lookup data request.map request.key).mapError .policy

variable {settings : ClusterSettings} {earlier : List Request} {request : Request}

theorem served_concat (settings : ClusterSettings) (earlier : List Request) (request : Request) :
    settings.served (earlier ++ [request]) =
      (settings.serve (settings.served earlier) request).2 := by
  unfold served
  rw [List.foldl_concat]

/-- A request in a namespace is served as its map is read. -/
theorem serve_cases {space : Scalar} (here : settings.spaceFor request.space = .scalar space)
    (session : Session) :
    ∃ outcome asked after,
      settings.Reading request.world space request.map session outcome asked after ∧
      settings.serve session request =
        (outcome >>= fun data => valueOf data request, after) := by
  obtain ⟨outcome, asked, after, ran, reading⟩ :=
    map_data_reading settings request.world space request.map session
  refine ⟨outcome, asked, after, reading, ?_⟩
  rw [serve, value, here]
  simp only [Compile.run_bind, ran]
  cases outcome with
  | error failure => rfl
  | ok data => rfl

/-- Without a namespace to look in nothing happens. -/
theorem serve_misplaced (nowhere : ∀ space, settings.spaceFor request.space ≠ .scalar space)
    (session : Session) : settings.serve session request = (.error (.data .wrongType), session) := by
  rw [serve, value]
  split
  · rename_i space here
    exact absurd here (nowhere space)
  · rfl

theorem Reading.calls {world : World} {space : Scalar} {map : Text} {session after : Session}
    {outcome : Except Failure Fields} {asked : List Call}
    (reading : settings.Reading world space map session outcome asked after) :
    after.calls = session.calls ++ asked := by
  cases reading with
  | known => simp
  | unreachable => rfl
  | refused => rfl
  | found => rfl

theorem asked_cases {space : Scalar} (here : settings.spaceFor request.space = .scalar space)
    (earlier : List Request) :
    ∃ outcome after,
      settings.Reading request.world space request.map (settings.served earlier) outcome
        (settings.asked earlier request) after ∧
      settings.answer earlier request = (outcome >>= fun data => valueOf data request) ∧
      settings.served (earlier ++ [request]) = after := by
  obtain ⟨outcome, asked, after, reading, ran⟩ := serve_cases here (settings.served earlier)
  have left : settings.served (earlier ++ [request]) = after := by rw [served_concat, ran]
  have asks : settings.asked earlier request = asked := by
    rw [ClusterSettings.asked, left, reading.calls, List.drop_left]
  exact ⟨outcome, after, asks ▸ reading, by rw [answer, ran], left⟩

theorem asked_misplaced (nowhere : ∀ space, settings.spaceFor request.space ≠ .scalar space)
    (earlier : List Request) :
    settings.served (earlier ++ [request]) = settings.served earlier ∧
      settings.asked earlier request = [] := by
  have kept : settings.served (earlier ++ [request]) = settings.served earlier := by
    rw [served_concat, serve_misplaced nowhere]
  refine ⟨kept, ?_⟩
  rw [asked, kept, List.drop_length]

theorem namespace_cases (settings : ClusterSettings) (name : Option Text) :
    (∃ space, settings.spaceFor name = .scalar space) ∨
      ∀ space, settings.spaceFor name ≠ .scalar space := by
  cases found : settings.spaceFor name with
  | scalar space => exact .inl ⟨space, rfl⟩
  | _ => exact .inr fun _ same => nomatch same

theorem loading_ne_read (settings : ClusterSettings) (map : Text) (space : Value) :
    settings.loading ≠ .readConfigMap map space := by
  unfold loading
  split <;> simp

theorem reads_of_asked {space t : Scalar} {map : Text} {data : Fields} {session : Session}
    (asks : settings.asked earlier request =
      settings.loadings session ++ [.readConfigMap request.map (.scalar space)])
    (reads : settings.Reads earlier request t map data) : space = t ∧ request.map = map := by
  obtain ⟨member, -⟩ := reads
  rw [asks] at member
  rcases List.mem_append.mp member with loads | read
  · unfold loadings at loads
    split at loads
    · contradiction
    · exact absurd (List.mem_singleton.mp loads).symm (loading_ne_read settings _ _)
  · have same := List.mem_singleton.mp read
    simp only [Call.readConfigMap.injEq, Value.scalar.injEq] at same
    exact ⟨same.2.symm, same.1.symm⟩

/-- A request reads the map that it is for, if that is not known and can be read. -/
theorem reads_iff {space : Scalar} {outcome : Except Failure Fields} {after : Session}
    (reading : settings.Reading request.world space request.map (settings.served earlier) outcome
      (settings.asked earlier request) after)
    (t : Scalar) (map : Text) (data : Fields) :
    settings.Reads earlier request t map data ↔
      known? (settings.served earlier) t map = none ∧ space = t ∧ request.map = map ∧
        outcome = .ok data := by
  generalize asks : settings.asked earlier request = asked at reading
  cases reading with
  | known found =>
      constructor
      · rintro ⟨member, -⟩
        rw [asks] at member
        contradiction
      · rintro ⟨unknown, rfl, rfl, -⟩
        exact absurd (found.symm.trans unknown) (by simp)
  | unreachable =>
      constructor
      · rintro ⟨member, -⟩
        rw [asks, List.mem_singleton] at member
        exact absurd member.symm (loading_ne_read settings _ _)
      · rintro ⟨-, -, -, failed⟩
        contradiction
  | refused unknown reached refusal =>
      constructor
      · intro reads
        obtain ⟨rfl, rfl⟩ := reads_of_asked asks reads
        exact absurd (refusal.symm.trans reads.2) (by simp)
      · rintro ⟨-, -, -, failed⟩
        contradiction
  | found unknown reached found =>
      constructor
      · intro reads
        obtain ⟨rfl, rfl⟩ := reads_of_asked asks reads
        have same := ConfigMapAnswer.found.inj (found.symm.trans reads.2)
        exact ⟨unknown, rfl, rfl, congrArg _ same⟩
      · rintro ⟨-, rfl, rfl, read⟩
        obtain rfl := Except.ok.inj read
        exact ⟨by simp [asks], found⟩

/-- What a source knows of a config map is what one of its requests has read. -/
theorem known_concat {name : Option Text} {t : Scalar}
    (there : settings.spaceFor name = .scalar t) (map : Text) (data : Fields) :
    known? (settings.served (earlier ++ [request])) t map = some data ↔
      known? (settings.served earlier) t map = some data ∨
        settings.Reads earlier request t map data := by
  rcases namespace_cases settings request.space with ⟨space, here⟩ | nowhere
  · obtain ⟨outcome, after, reading, -, left⟩ := asked_cases here earlier
    rw [left, reading.known_after here there, Option.or_eq_some_iff, reads_iff reading]
    by_cases target : space = t ∧ request.map = map
    · obtain ⟨rfl, rfl⟩ := target
      cases outcome <;> simp [Except.toOption]
    · have apart : ¬ (space = t ∧ request.map = map ∧ outcome = .ok data) :=
        fun all => target ⟨all.1, all.2.1⟩
      simp [target, apart]
  · obtain ⟨kept, asks⟩ := asked_misplaced nowhere earlier
    rw [kept]
    simp [Reads, asks]

theorem prefix_exists_concat {α : Type} {holds : List α → α → Prop} {items : List α} {item : α} :
    (∃ front last, front ++ [last] <+: items ++ [item] ∧ holds front last) ↔
      (∃ front last, front ++ [last] <+: items ∧ holds front last) ∨ holds items item := by
  simp only [List.prefix_concat_iff, or_and_right, exists_or]
  constructor
  · rintro (⟨front, last, same, this⟩ | within)
    · obtain ⟨rfl, rfl⟩ := List.append_singleton_inj.mp same
      exact .inr this
    · exact .inl within
  · rintro (within | this)
    · exact .inr within
    · exact .inl ⟨items, item, rfl, this⟩

theorem known_iff_has_read {name : Option Text} {t : Scalar}
    (there : settings.spaceFor name = .scalar t) (map : Text) (data : Fields) :
    known? (settings.served earlier) t map = some data ↔ settings.HasRead earlier t map data := by
  -- from the end, since it is the last request that adds to what is known
  induction earlier using List.reverseRecOn with
  | nil => simp [served, known?, HasRead]
  | append_singleton earlier request ih => rw [known_concat there, ih, HasRead, HasRead, prefix_exists_concat]

/-! Whether the configuration is loaded -/

/-- Only a session with a loaded configuration knows config maps. -/
def Linked (session : Session) : Prop := session.connected = false → session.maps = []

theorem Linked.connected_of_known {session : Session} (linked : Linked session) {space : Scalar}
    {map : Text} {data : Fields} (known : known? session space map = some data) :
    session.connected = true := by
  cases connected : session.connected with
  | true => rfl
  | false =>
      rw [known?, linked connected] at known
      contradiction

section Reading

variable {world : World} {space : Scalar} {map : Text} {session after : Session}
  {outcome : Except Failure Fields} {asked : List Call}

theorem Reading.linked_after (linked : Linked session)
    (reads : settings.Reading world space map session outcome asked after) : Linked after := by
  cases reads with
  | known => exact linked
  | unreachable => exact linked
  | refused => exact fun apart => nomatch apart
  | found => exact fun apart => nomatch apart

theorem Reading.connected_after (linked : Linked session)
    (reads : settings.Reading world space map session outcome asked after) :
    after.connected = (session.connected || world.clusterFailure.isNone) := by
  cases reads with
  | known found => simp [linked.connected_of_known found]
  | unreachable unknown apart failed => simp [apart, failed]
  | refused unknown reached => rcases reached with connected | loads <;> simp [*]
  | found unknown reached => rcases reached with connected | loads <;> simp [*]

theorem loading_mem_iff :
    settings.loading ∈ settings.loadings session ++ [.readConfigMap map (.scalar space)] ↔
      session.connected = false := by
  unfold loadings
  cases session.connected <;> simp [loading_ne_read]

theorem Reading.loads_iff (linked : Linked session)
    (reads : settings.Reading world space map session outcome asked after) :
    settings.loading ∈ asked ∧ world.clusterFailure = none ↔
      session.connected = false ∧ world.clusterFailure = none := by
  cases reads with
  | known found => simp [linked.connected_of_known found]
  | unreachable unknown apart failed => simp [failed]
  | refused => rw [loading_mem_iff]
  | found => rw [loading_mem_iff]

theorem Reading.not_loading (connected : session.connected = true)
    (reads : settings.Reading world space map session outcome asked after) :
    settings.loading ∉ asked := by
  cases reads with
  | known => simp
  | unreachable unknown apart => simp [connected] at apart
  | refused => rw [loading_mem_iff, connected]; simp
  | found => rw [loading_mem_iff, connected]; simp

end Reading

theorem linked_served (settings : ClusterSettings) (requests : List Request) :
    Linked (settings.served requests) := by
  induction requests using List.reverseRecOn with
  | nil => exact fun _ => rfl
  | append_singleton earlier request ih =>
      rcases namespace_cases settings request.space with ⟨space, here⟩ | nowhere
      · obtain ⟨outcome, after, reading, -, left⟩ := asked_cases here earlier
        rw [left]
        exact reading.linked_after ih
      · rw [(asked_misplaced nowhere earlier).1]
        exact ih

theorem connected_iff_has_loaded (settings : ClusterSettings) (requests : List Request) :
    (settings.served requests).connected = true ↔ settings.HasLoaded requests := by
  induction requests using List.reverseRecOn with
  | nil => simp [served, HasLoaded]
  | append_singleton earlier request ih =>
      rw [HasLoaded, prefix_exists_concat, ← HasLoaded, ← ih]
      rcases namespace_cases settings request.space with ⟨space, here⟩ | nowhere
      · obtain ⟨outcome, after, reading, -, left⟩ := asked_cases here earlier
        have linked := linked_served settings earlier
        rw [left, reading.connected_after linked, Loads, reading.loads_iff linked]
        cases (settings.served earlier).connected <;> simp
      · obtain ⟨kept, asks⟩ := asked_misplaced nowhere earlier
        rw [kept, Loads, asks]
        simp

/-! What a request depends on -/

/-- Requests that are one but for what the cluster holds besides one config map. -/
structure Alike (name map : Text) (request other : Request) : Prop where
  space_eq : other.space = request.space
  map_eq : other.map = request.map
  key_eq : other.key = request.key
  failure_eq : other.world.clusterFailure = request.world.clusterFailure
  answer_eq : other.world.configMap name map = request.world.configMap name map

/-- Sessions that know the same of one config map. -/
structure Knows (space : Scalar) (map : Text) (session other : Session) : Prop where
  connected : other.connected = session.connected
  known : known? other space map = known? session space map
  linked : Linked session
  otherLinked : Linked other

theorem reading_eq {world otherWorld : World} {space : Scalar} {map : Text}
    {session other : Session} (knows : Knows space map session other)
    (failure : otherWorld.clusterFailure = world.clusterFailure)
    (answer : otherWorld.configMap space.plain map = world.configMap space.plain map) :
    reading otherWorld other space map = reading world session space map := by
  unfold reading obstacle?
  rw [knows.known, knows.connected, failure, answer]

theorem Knows.serve {name : Option Text} {space : Scalar} {map : Text} {session other : Session}
    {request otherRequest : Request} (there : settings.spaceFor name = .scalar space)
    (knows : Knows space map session other)
    (alike : Alike space.plain map request otherRequest) :
    Knows space map (settings.serve session request).2 (settings.serve other otherRequest).2 := by
  rcases namespace_cases settings request.space with ⟨target, here⟩ | nowhere
  · have otherHere : settings.spaceFor otherRequest.space = .scalar target := alike.space_eq ▸ here
    obtain ⟨outcome, asked, after, reads, ran⟩ := serve_cases here session
    obtain ⟨otherOutcome, otherAsked, otherAfter, otherReads, otherRan⟩ := serve_cases otherHere other
    rw [ran, otherRan]
    refine ⟨?_, ?_, reads.linked_after knows.linked, otherReads.linked_after knows.otherLinked⟩
    · rw [otherReads.connected_after knows.otherLinked, reads.connected_after knows.linked,
        knows.connected, alike.failure_eq]
    · rw [otherReads.known_after otherHere there, reads.known_after here there, knows.known,
        alike.map_eq, otherReads.outcome_eq, reads.outcome_eq, alike.map_eq]
      -- a reading of another map is none of this one's concern
      congr 1
      by_cases same : target = space ∧ request.map = map
      · obtain ⟨rfl, rfl⟩ := same
        rw [reading_eq knows alike.failure_eq alike.answer_eq]
      · rw [if_neg same, if_neg same]
  · have otherNowhere := alike.space_eq ▸ nowhere
    rw [serve_misplaced nowhere, serve_misplaced otherNowhere]
    exact knows

theorem Knows.fold {name : Option Text} {space : Scalar} {map : Text} {session other : Session}
    {requests others : List Request} (there : settings.spaceFor name = .scalar space)
    (knows : Knows space map session other)
    (alike : List.Forall₂ (Alike space.plain map) requests others) :
    Knows space map (requests.foldl (fun session request => (settings.serve session request).2) session)
      (others.foldl (fun session request => (settings.serve session request).2) other) := by
  induction alike generalizing session other with
  | nil => exact knows
  | cons first _ ih => exact ih (knows.serve there first)

/-- What the cluster holds besides a config map shows in no value of it. -/
theorem answer_eq_of_alike {space : Scalar} {requests others : List Request}
    {otherRequest : Request} (here : settings.spaceFor request.space = .scalar space)
    (alike : List.Forall₂ (Alike space.plain request.map) requests others)
    (last : Alike space.plain request.map request otherRequest) :
    settings.answer others otherRequest = settings.answer requests request := by
  have knows : Knows space request.map (settings.served requests) (settings.served others) :=
    Knows.fold here ⟨rfl, rfl, fun _ => rfl, fun _ => rfl⟩ alike
  have otherHere : settings.spaceFor otherRequest.space = .scalar space := last.space_eq ▸ here
  obtain ⟨outcome, after, reads, answered, -⟩ := asked_cases here requests
  obtain ⟨otherOutcome, otherAfter, otherReads, otherAnswered, -⟩ := asked_cases otherHere others
  rw [otherAnswered, answered, otherReads.outcome_eq, reads.outcome_eq, last.map_eq,
    reading_eq knows last.failure_eq last.answer_eq]
  unfold valueOf
  rw [last.map_eq, last.key_eq]

theorem reachable_of_loaded (loaded : settings.HasLoaded earlier ∨
    request.world.clusterFailure = none) :
    reachable request.world (settings.served earlier) :=
  loaded.imp_left (connected_iff_has_loaded settings earlier).mpr

theorem unknown_of_unread {space : Scalar} {map : Text}
    (here : settings.spaceFor request.space = .scalar space)
    (unread : ∀ data, ¬ settings.HasRead earlier space map data) :
    known? (settings.served earlier) space map = none := by
  apply Option.eq_none_iff_forall_ne_some.mpr
  intro data known
  exact unread data ((known_iff_has_read here map data).mp known)

/-- A value is that of the data with which its config map was first read, whatever has become of the
map since; a map that could not be read is asked for again; no map is read twice, the configuration
is not asked for after it was loaded, and other config maps, be they of the same name in another
namespace, have no part in an answer. -/
theorem values_from_first_reading
    {settings : ClusterSettings}
    {earlier : List Request}
    {request : Request}
    {space : Scalar}
    (here : settings.spaceFor request.space = .scalar space) :
    (∀ data, settings.HasRead earlier space request.map data →
      settings.answer earlier request = valueOf data request ∧
        settings.asked earlier request = [] ∧
        settings.served (earlier ++ [request]) = settings.served earlier) ∧
    ((∀ data, ¬ settings.HasRead earlier space request.map data) →
      (¬ settings.HasLoaded earlier → ∀ reason, request.world.clusterFailure = some reason →
        settings.answer earlier request =
            .error (.policy (.configMap (.configurationFailed reason))) ∧
          settings.asked earlier request = [settings.loading] ∧
          (settings.served (earlier ++ [request])).connected =
            (settings.served earlier).connected ∧
          (settings.served (earlier ++ [request])).maps = (settings.served earlier).maps) ∧
      (settings.HasLoaded earlier ∨ request.world.clusterFailure = none →
        .readConfigMap request.map (.scalar space) ∈ settings.asked earlier request ∧
        (∀ reason, request.world.configMap space.plain request.map = .refused reason →
          settings.answer earlier request =
              .error (.policy (.configMap (.readFailed space.plain request.map reason))) ∧
            (settings.served (earlier ++ [request])).maps = (settings.served earlier).maps) ∧
        ∀ data, request.world.configMap space.plain request.map = .found data →
          settings.answer earlier request = valueOf data request ∧
            settings.Reads earlier request space request.map data)) ∧
    (∀ target map data more, settings.HasRead earlier target map data →
      ¬ settings.Reads earlier request target map more) ∧
    (settings.HasLoaded earlier → settings.loading ∉ settings.asked earlier request) ∧
    ∀ others other, List.Forall₂ (Alike space.plain request.map) earlier others →
      Alike space.plain request.map request other →
      settings.answer others other = settings.answer earlier request := by
  obtain ⟨outcome, after, reads, answered, left⟩ := asked_cases here earlier
  refine ⟨fun data read => ?_, fun unread => ⟨fun unloaded reason failed => ?_, fun reached => ?_⟩,
    fun target map data more read again => ?_, fun loaded => ?_,
    fun others other => answer_eq_of_alike here⟩
  · have known := (known_iff_has_read here request.map data).mpr read
    obtain ⟨rfl, asks, rfl⟩ := reads.unique (.known known)
    exact ⟨answered, asks, left⟩
  · have unknown := unknown_of_unread here unread
    have apart : (settings.served earlier).connected = false := by
      rw [Bool.eq_false_iff, ne_eq, connected_iff_has_loaded]
      exact unloaded
    obtain ⟨rfl, asks, rfl⟩ := reads.unique (.unreachable unknown apart failed)
    exact ⟨answered, asks, congrArg (·.connected) left, congrArg (·.maps) left⟩
  · have unknown := unknown_of_unread here unread
    have reached := reachable_of_loaded reached
    cases answer : request.world.configMap space.plain request.map with
    | refused reason =>
        obtain ⟨rfl, asks, rfl⟩ := reads.unique (.refused unknown reached answer)
        refine ⟨by simp [asks], fun other same => ?_, fun _ same => nomatch same⟩
        obtain rfl := ConfigMapAnswer.refused.inj same
        exact ⟨answered, congrArg (·.maps) left⟩
    | found data =>
        obtain ⟨rfl, asks, rfl⟩ := reads.unique (.found unknown reached answer)
        have asksMap : .readConfigMap request.map (.scalar space) ∈
            settings.asked earlier request := by simp [asks]
        refine ⟨asksMap, fun _ same => (nomatch same), fun other same => ?_⟩
        obtain rfl := ConfigMapAnswer.found.inj same
        exact ⟨answered, asksMap, answer⟩
  · obtain ⟨unknown, rfl, -⟩ := (reads_iff reads target map more).mp again
    have known := (known_iff_has_read here map data).mpr read
    exact absurd (known.symm.trans unknown) (by simp)
  · exact reads.not_loading ((connected_iff_has_loaded settings earlier).mpr loaded)

/-- Surroundings in which every config map has one value. -/
def holding (value : Text) : World where
  inspect _ := .timedOut
  configMap _ _ := .found [(.text "key", .text value)]

/-- A request that meets an outage, and one that comes after it. -/
def throughOutage : List Request :=
  [⟨{ holding "0" with clusterFailure := some "down" }, some "shop", "settings", "key"⟩,
   ⟨holding "1", some "shop", "settings", "key"⟩]

theorem replaced_map_answers_as_read :
    let later : Request := ⟨holding "2", some "shop", "settings", "key"⟩
    let settings : ClusterSettings := {}
    settings.spaceFor later.space = .scalar (.text "shop") ∧
      settings.HasRead throughOutage (.text "shop") "settings" [(.text "key", .text "1")] ∧
      settings.answer throughOutage later = .ok "1" ∧ settings.asked throughOutage later = [] := by
  intro later settings
  have reads : settings.HasRead throughOutage (.text "shop") "settings"
      [(.text "key", .text "1")] :=
    ⟨throughOutage.take 1, throughOutage.getLast (by simp [throughOutage]), List.prefix_refl _,
      by decide +kernel, rfl⟩
  have here : settings.spaceFor later.space = .scalar (.text "shop") := rfl
  obtain ⟨answered, asks, -⟩ := (values_from_first_reading here).1 _ reads
  exact ⟨here, reads, answered, asks⟩

end ClusterSettings

end LaunchPolicy
