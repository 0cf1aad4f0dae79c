import LaunchPolicy.Proofs.Cluster.Reading
import LaunchPolicy.Proofs.Value.Path

/-!
Steady actions. What a session has learnt of a cluster changes none of the cluster's answers, so an
action that depends on these answers alone has the same result in every session that gets the same
answers, and leaves such a session.
-/

namespace LaunchPolicy

theorem Scalar.text_same_key_iff (name : Text) (s : Scalar) :
    (Scalar.text name).sameKey s = true ↔ s = .text name := by
  cases s with
  | text t => simp [same_key_text, eq_comm]
  | _ => simp [sameKey, number?]

theorem Scalar.same_key_self (s : Scalar) : s.sameKey s = true := by
  cases s <;> simp [sameKey, number?, sameNumber, Moment.sameInstant]

namespace ClusterSettings

variable {settings : ClusterSettings} {world : World} {session after : Session}

/-- Why a session cannot reach the cluster. -/
def obstacle? (world : World) (session : Session) : Option Text :=
  if session.connected then none else world.clusterFailure

/-- What comes of reading a config map. -/
def reading (world : World) (session : Session) (space : Scalar) (map : Text) :
    Except Failure Fields :=
  match known? session space map with
  | some data => .ok data
  | none =>
      match obstacle? world session with
      | some reason => .error (.policy (.configMap (.configurationFailed reason)))
      | none =>
          match world.configMap space.plain map with
          | .refused reason => .error (.policy (.configMap (.readFailed space.plain map reason)))
          | .found data => .ok data

/-- The answers of a cluster to a session, by the namespace that a workload names. -/
def answers (settings : ClusterSettings) (world : World) (session : Session)
    (space : Option Text) (map : Text) : Except Failure Fields :=
  match settings.spaceFor space with
  | .scalar space => reading world session space map
  | _ => .error (.data .wrongType)

theorem reading_congr (maps : after.maps = session.maps)
    (obstacle : obstacle? world after = obstacle? world session) :
    reading world after = reading world session := by
  funext space map
  simp only [reading, known?, maps, obstacle]

theorem answers_congr (maps : after.maps = session.maps)
    (obstacle : obstacle? world after = obstacle? world session) :
    settings.answers world after = settings.answers world session := by
  funext space map
  simp only [answers, reading_congr maps obstacle]

theorem obstacle_of_reachable (reached : reachable world session) :
    obstacle? world session = none := by
  unfold obstacle?
  rcases reached with connected | loads
  · rw [if_pos connected]
  · rw [loads, ite_self]

section Reading

variable {space : Scalar} {map : Text} {outcome : Except Failure Fields} {asked : List Call}

theorem Reading.outcome_eq
    (reads : settings.Reading world space map session outcome asked after) :
    outcome = reading world session space map := by
  cases reads with
  | known found => simp [reading, found]
  | unreachable unknown apart failed => simp [reading, unknown, obstacle?, apart, failed]
  | refused unknown reached answer =>
      simp [reading, unknown, obstacle_of_reachable reached, answer]
  | found unknown reached answer =>
      simp [reading, unknown, obstacle_of_reachable reached, answer]

theorem Reading.obstacle_after
    (reads : settings.Reading world space map session outcome asked after) :
    obstacle? world after = obstacle? world session := by
  cases reads with
  | known => rfl
  | unreachable => rfl
  | refused unknown reached => exact (obstacle_of_reachable reached).symm
  | found unknown reached => exact (obstacle_of_reachable reached).symm

end Reading

/-- Two namespaces under which one config map would be known are one namespace. -/
theorem space_eq_of_same_key {space other : Option Text} {s t : Scalar}
    (here : settings.spaceFor space = .scalar s) (there : settings.spaceFor other = .scalar t)
    (same : s.sameKey t = true) : s = t := by
  have cases_ : ∀ name, settings.spaceFor name = settings.space ∨
      ∃ text, settings.spaceFor name = .text text := by
    intro name
    cases name with
    | none => exact .inl rfl
    | some text =>
        by_cases empty : text = ""
        · exact .inl (by simp [spaceFor, empty])
        · exact .inr ⟨text, by simp [spaceFor, empty]⟩
  rcases cases_ space with own | ⟨text, own⟩
  · rcases cases_ other with otherOwn | ⟨text, otherOwn⟩
    · rw [own] at here
      rw [otherOwn, here] at there
      exact Value.scalar.inj there
    · obtain rfl := Value.scalar.inj (otherOwn.symm.trans there)
      exact (Scalar.same_key_text_iff s text).mp same
  · obtain rfl := Value.scalar.inj (own.symm.trans here)
    exact ((Scalar.text_same_key_iff text t).mp same).symm

/-- A config map that is read is known afterwards; nothing else is new. -/
theorem Reading.known_after {name other : Option Text} {space t : Scalar} {map : Text}
    {outcome : Except Failure Fields} {asked : List Call}
    (reads : settings.Reading world space map session outcome asked after)
    (here : settings.spaceFor name = .scalar space) (there : settings.spaceFor other = .scalar t)
    (otherMap : Text) :
    known? after t otherMap = (known? session t otherMap).or
      (if space = t ∧ map = otherMap then outcome.toOption else none) := by
  cases reads with
  | @known data found =>
      by_cases target : space = t ∧ map = otherMap
      · obtain ⟨rfl, rfl⟩ := target
        simp [found]
      · simp [target]
  | unreachable =>
      simp only [Except.toOption, ite_self, Option.or_none]
      rfl
  | refused =>
      simp only [Except.toOption, ite_self, Option.or_none]
      rfl
  | found =>
      have target : (space.sameKey t && map == otherMap) = true ↔ space = t ∧ map = otherMap := by
        rw [Bool.and_eq_true, beq_iff_eq]
        refine and_congr_left' ⟨space_eq_of_same_key here there, ?_⟩
        rintro rfl
        exact Scalar.same_key_self space
      rw [known_append rfl]
      simp only [target, Except.toOption]

/-- Reading a config map changes none of the cluster's answers. -/
theorem Reading.answers_after {name : Option Text} {space : Scalar} {map : Text}
    {outcome : Except Failure Fields} {asked : List Call}
    (reads : settings.Reading world space map session outcome asked after)
    (here : settings.spaceFor name = .scalar space) :
    settings.answers world after = settings.answers world session := by
  funext other otherMap
  rw [answers, answers]
  cases there : settings.spaceFor other with
  | scalar t =>
      have known := reads.known_after here there otherMap
      simp only [reading, known, reads.obstacle_after]
      cases earlier : known? session t otherMap with
      | some data => rfl
      | none =>
          by_cases target : space = t ∧ map = otherMap
          · obtain ⟨rfl, rfl⟩ := target
            rw [reads.outcome_eq, Option.none_or, if_pos ⟨rfl, rfl⟩, reading, earlier]
            have again : ∀ r : Except Failure Fields,
                (match r.toOption with | some data => .ok data | none => r) = r := by
              intro r
              cases r <;> rfl
            exact again _
          · simp [target]
  | _ => rfl

end ClusterSettings

/-- What a session is answered about config maps, if there is a cluster. -/
def World.answers (world : World) (cluster : Option ClusterSettings) (session : Session) :
    Option (Option Text → Text → Except Failure Fields) :=
  cluster.map fun settings => settings.answers world session

/-- Neither calls nor notes change an answer. -/
theorem World.answers_congr {world : World} {session other : Session}
    (cluster : Option ClusterSettings) (maps : other.maps = session.maps)
    (connected : other.connected = session.connected) :
    world.answers cluster other = world.answers cluster session := by
  rw [answers, answers]
  congr 1
  funext settings
  apply ClusterSettings.answers_congr maps
  rw [ClusterSettings.obstacle?, ClusterSettings.obstacle?, connected]

namespace Compile

/-- The answers of the cluster decide on the result, and stay what they are. -/
structure Steady {α : Type} (cluster : Option ClusterSettings) (world : World)
    (action : Compile α) : Prop where
  keeps : ∀ session, world.answers cluster (action.run world session).2 =
    world.answers cluster session
  decides : ∀ session other, world.answers cluster other = world.answers cluster session →
    (action.run world other).1 = (action.run world session).1

variable {α β : Type} {cluster : Option ClusterSettings} {world : World}

theorem steady_of_except (r : Except Failure α) : (ofExcept r).Steady cluster world :=
  ⟨fun _ => rfl, fun _ _ _ => rfl⟩

theorem steady_pure (a : α) : (pure a : Compile α).Steady cluster world :=
  ⟨fun _ => rfl, fun _ _ _ => rfl⟩

theorem steady_throw (failure : Failure) : (throw failure : Compile α).Steady cluster world :=
  ⟨fun _ => rfl, fun _ _ _ => rfl⟩

theorem steady_note (event : Event) : (note event).Steady cluster world :=
  ⟨fun _ => World.answers_congr cluster rfl rfl, fun _ _ _ => rfl⟩

theorem steady_ask (call : Call) : (ask call).Steady cluster world :=
  ⟨fun _ => World.answers_congr cluster rfl rfl, fun _ _ _ => rfl⟩

theorem steady_read : (read : Compile World).Steady cluster world :=
  ⟨fun _ => rfl, fun _ _ _ => rfl⟩

theorem Steady.leaves {action : Compile α} (steady : action.Steady cluster world)
    {session after : Session} {r : Except Failure α}
    (ran : action.run world session = (r, after)) :
    world.answers cluster after = world.answers cluster session := by
  have kept := steady.keeps session
  rwa [ran] at kept

/-- A result is reached from every session that gets the same answers. -/
theorem Steady.reaches {action : Compile α} (steady : action.Steady cluster world)
    {session after other : Session} {r : Except Failure α}
    (ran : action.run world session = (r, after))
    (same : world.answers cluster other = world.answers cluster session) :
    ∃ later, action.run world other = (r, later) ∧
      world.answers cluster later = world.answers cluster session := by
  have result := steady.decides session other same
  rw [ran] at result
  obtain ⟨later, reached⟩ := run_of_result result
  exact ⟨later, reached, (steady.leaves reached).trans same⟩

theorem Steady.bind {action : Compile α} {next : α → Compile β}
    (first : action.Steady cluster world) (then_ : ∀ a, (next a).Steady cluster world) :
    (action >>= next).Steady cluster world := by
  constructor
  · intro session
    rw [run_bind]
    rcases ran : action.run world session with ⟨r, middle⟩
    cases r with
    | error failure => exact first.leaves ran
    | ok a => exact ((then_ a).keeps middle).trans (first.leaves ran)
  · intro session other same
    rw [run_bind, run_bind]
    rcases ran : action.run world session with ⟨r, middle⟩
    obtain ⟨otherMiddle, otherRan, otherKept⟩ := first.reaches ran same
    rw [otherRan]
    cases r with
    | error failure => rfl
    | ok a => exact (then_ a).decides middle otherMiddle (otherKept.trans (first.leaves ran).symm)

theorem Steady.try_catch {action : Compile α} {handle : Failure → Compile α}
    (first : action.Steady cluster world) (handled : ∀ failure, (handle failure).Steady cluster world) :
    (tryCatch action handle).Steady cluster world := by
  constructor
  · intro session
    rw [run_try_catch]
    rcases ran : action.run world session with ⟨r, middle⟩
    cases r with
    | ok a => exact first.leaves ran
    | error failure => exact ((handled failure).keeps middle).trans (first.leaves ran)
  · intro session other same
    rw [run_try_catch, run_try_catch]
    rcases ran : action.run world session with ⟨r, middle⟩
    obtain ⟨otherMiddle, otherRan, otherKept⟩ := first.reaches ran same
    rw [otherRan]
    cases r with
    | ok a => rfl
    | error failure =>
        exact (handled failure).decides middle otherMiddle (otherKept.trans (first.leaves ran).symm)

theorem Steady.map {action : Compile α} (first : action.Steady cluster world) (f : α → β) :
    (f <$> action).Steady cluster world := by
  rw [← bind_pure_comp]
  exact first.bind fun a => steady_pure (f a)

/-- Steady items that are worked through one after another come to what each comes to at the start. -/
theorem run_map_m_alone {f : α → Compile β} {items : List α}
    (each : ∀ item ∈ items, (f item).Steady cluster world) {session start : Session}
    (same : world.answers cluster session = world.answers cluster start) :
    ((items.mapM f).run world session).1 = items.mapM fun item => ((f item).run world start).1 := by
  induction items generalizing session with
  | nil => rfl
  | cons item items ih =>
      obtain ⟨here, rest⟩ := List.forall_mem_cons.mp each
      have first := here.decides start session same
      rw [List.mapM_cons, List.mapM_cons, run_bind, ← first]
      rcases ran : (f item).run world session with ⟨r, middle⟩
      cases r with
      | error failure => rfl
      | ok result =>
          have others := ih rest ((here.leaves ran).trans same)
          simp only [run_bind, ← others]
          rcases (items.mapM f).run world middle with ⟨r, last⟩
          cases r <;> rfl

theorem steady_fold {step : β → α → Compile β} {items : List α} {start : β}
    (each : ∀ b, ∀ item ∈ items, (step b item).Steady cluster world) :
    (items.foldlM step start).Steady cluster world := by
  induction items generalizing start with
  | nil => exact steady_pure start
  | cons item items ih =>
      rw [List.foldlM_cons]
      exact (each start item (by simp)).bind fun b =>
        ih fun c other member => each c other (List.mem_cons_of_mem _ member)

/-- A fold whose steps join what they make to the state comes to the fold over what each item makes
at the start. -/
theorem run_fold_alone {γ : Type} {step : β → α → Compile β} {made : α → Except Failure γ}
    {join : β → γ → β} {items : List α} {start : Session}
    (each : ∀ item ∈ items, ∀ b, (step b item).Steady cluster world ∧
      ((step b item).run world start).1 = (made item).map (join b))
    {session : Session} (same : world.answers cluster session = world.answers cluster start) (b : β) :
    ((items.foldlM step b).run world session).1 = (items.mapM made).map (·.foldl join b) := by
  induction items generalizing session b with
  | nil => rfl
  | cons item items ih =>
      obtain ⟨here, rest⟩ := List.forall_mem_cons.mp each
      obtain ⟨steady, alone⟩ := here b
      have first := steady.decides start session same
      rw [List.foldlM_cons, List.mapM_cons, run_bind]
      rcases ran : (step b item).run world session with ⟨r, middle⟩
      rw [ran, alone] at first
      obtain rfl := first
      cases made item with
      | error failure => rfl
      | ok own =>
          have others := ih rest ((steady.leaves ran).trans same) (join b own)
          exact others.trans (by cases items.mapM made <;> rfl)

/-- The value of a key of a config map. -/
theorem steady_value (settings : ClusterSettings) (space : Option Text) (map key : Text) :
    (settings.value space map key).Steady (some settings) world := by
  rw [ClusterSettings.value]
  split
  · rename_i s here
    refine Steady.bind ⟨fun session => ?_, fun session other same => ?_⟩ fun data => steady_of_except _
    · obtain ⟨outcome, asked, after, ran, reads⟩ :=
        ClusterSettings.map_data_reading settings world s map session
      rw [ran]
      exact congrArg some (reads.answers_after here)
    · have answer : settings.answers world other space map = settings.answers world session space map :=
        congrFun (congrFun (Option.some.inj same) space) map
      rw [ClusterSettings.answers, ClusterSettings.answers, here] at answer
      obtain ⟨outcome, asked, after, ran, reads⟩ :=
        ClusterSettings.map_data_reading settings world s map session
      obtain ⟨otherOutcome, otherAsked, otherAfter, otherRan, otherReads⟩ :=
        ClusterSettings.map_data_reading settings world s map other
      rw [ran, otherRan, reads.outcome_eq, otherReads.outcome_eq]
      exact answer
  · exact steady_of_except _

end Compile

end LaunchPolicy
