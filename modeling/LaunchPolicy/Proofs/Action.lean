import LaunchPolicy.Proofs.Outcome
import LaunchPolicy.Yaml.Node

/-!
Actions on a state that can fail. What an action keeps of its state, what its results have and which
errors it can have follow from those of its steps.
-/

namespace LaunchPolicy.Action

variable {σ ε α β : Type} {keeps : σ → Prop} {allowed : ε → Prop} {holds weaker : α → Prop}
  {holdsNext : β → Prop}

/-- An action keeps an invariant of its state, its results have a property, and its errors are among
some. -/
def Safe (keeps : σ → Prop) (allowed : ε → Prop) (action : StateT σ (Except ε) α) (holds : α → Prop) :
    Prop :=
  ∀ s, keeps s → match action.run s with
    | .ok (a, after) => keeps after ∧ holds a
    | .error e => allowed e

section Runs

variable {action : StateT σ (Except ε) α} {s : σ}

theorem Safe.ok (safe : Safe keeps allowed action holds) (kept : keeps s) {a : α} {after : σ}
    (ran : action.run s = .ok (a, after)) : keeps after ∧ holds a := by
  have this := safe s kept
  rwa [ran] at this

theorem Safe.error (safe : Safe keeps allowed action holds) (kept : keeps s) {e : ε}
    (failed : action.run s = .error e) : allowed e := by
  have this := safe s kept
  rwa [failed] at this

end Runs

theorem safe_pure {a : α} (holdsIt : holds a) :
    Safe keeps allowed (pure a : StateT σ (Except ε) α) holds := fun _ kept => ⟨kept, holdsIt⟩

theorem Safe.bind {action : StateT σ (Except ε) α} {next : α → StateT σ (Except ε) β}
    (first : Safe keeps allowed action holds) (then_ : ∀ a, holds a → Safe keeps allowed (next a) holdsNext) :
    Safe keeps allowed (action >>= next) holdsNext := by
  intro s kept
  have start := first s kept
  rw [StateT.run_bind]
  cases ran : action.run s with
  | error e =>
      rw [ran] at start
      exact start
  | ok result =>
      rw [ran] at start
      exact then_ result.1 start.2 result.2 start.1

theorem Safe.weaken {action : StateT σ (Except ε) α} (safe : Safe keeps allowed action holds)
    (each : ∀ a, holds a → weaker a) : Safe keeps allowed action weaker := by
  intro s kept
  have this := safe s kept
  cases ran : action.run s with
  | error e =>
      rw [ran] at this
      exact this
  | ok result =>
      rw [ran] at this
      exact ⟨this.1, each _ this.2⟩

theorem safe_throw {e : ε} (isAllowed : allowed e) (holds : α → Prop) :
    Safe keeps allowed (throw e : StateT σ (Except ε) α) holds := fun _ _ => isAllowed

theorem safe_lift {r : Except ε α} (fails : Outcome.FailsOnly allowed r) :
    Safe keeps allowed (liftM r : StateT σ (Except ε) α) fun a => r = .ok a := by
  intro s kept
  cases r with
  | ok a => exact ⟨kept, rfl⟩
  | error e => exact fails e rfl

theorem safe_get : Safe keeps allowed (get : StateT σ (Except ε) σ) keeps := fun _ kept => ⟨kept, kept⟩

theorem safe_set {s : σ} (kept : keeps s) :
    Safe keeps allowed (set s : StateT σ (Except ε) PUnit) fun _ => True := fun _ _ => ⟨kept, trivial⟩

theorem safe_modify {change : σ → σ} (each : ∀ s, keeps s → keeps (change s)) :
    Safe keeps allowed (modify change : StateT σ (Except ε) PUnit) fun _ => True :=
  fun s kept => ⟨each s kept, trivial⟩

theorem safe_map_m {f : α → StateT σ (Except ε) β} {items : List α}
    (each : ∀ item ∈ items, Safe keeps allowed (f item) holdsNext) :
    Safe keeps allowed (items.mapM f) fun results => ∀ result ∈ results, holdsNext result := by
  induction items with
  | nil => exact safe_pure (by simp)
  | cons item items ih =>
      obtain ⟨first, others⟩ := List.forall_mem_cons.mp each
      rw [List.mapM_cons]
      apply first.bind
      intro result holdsIt
      apply (ih others).bind
      intro rest holdsRest
      exact safe_pure (List.forall_mem_cons.mpr ⟨holdsIt, holdsRest⟩)

theorem safe_fold {step : β → α → StateT σ (Except ε) β} {items : List α} {start : β}
    (holdsStart : holdsNext start)
    (each : ∀ b item, holdsNext b → Safe keeps allowed (step b item) holdsNext) :
    Safe keeps allowed (items.foldlM step start) holdsNext := by
  induction items generalizing start with
  | nil => exact safe_pure holdsStart
  | cons item items ih =>
      rw [List.foldlM_cons]
      exact (each start item holdsStart).bind fun b holdsB => ih holdsB

/-- Where a loop never stops early, every item has what its step ensures. -/
theorem safe_for_each {step : α → StateT σ (Except ε) (ForInStep PUnit)} {items : List α}
    (each : ∀ item ∈ items,
      Safe keeps allowed (step item) fun next => next = .yield PUnit.unit ∧ holds item) :
    Safe keeps allowed (forIn items PUnit.unit fun item _ => step item) fun _ =>
      ∀ item ∈ items, holds item := by
  induction items with
  | nil => exact safe_pure (by simp)
  | cons item items ih =>
      obtain ⟨first, others⟩ := List.forall_mem_cons.mp each
      rw [List.forIn_cons]
      apply first.bind
      rintro _ ⟨rfl, holdsIt⟩
      exact (ih others).weaken fun _ rest => List.forall_mem_cons.mpr ⟨holdsIt, rest⟩

/-- Going down a level adds one fault of its own. -/
theorem safe_deeper {σ : Type} [Yaml.HasRoom σ] {keeps : σ → Prop} {allowed : Fault → Prop}
    {read : StateT σ (Except Fault) α} (deep : allowed .tooDeep)
    (room : ∀ room s, keeps s → keeps (Yaml.HasRoom.setRoom room s)) (safe : Safe keeps allowed read holds) :
    Safe keeps allowed (Yaml.deeper read) holds := by
  apply safe_get.bind
  intro s _
  split
  · exact safe_throw deep _
  · apply (safe_modify (room _)).bind
    intro _ _
    apply safe.bind
    intro a holdsIt
    exact (safe_modify (room _)).bind fun _ _ => safe_pure holdsIt

end LaunchPolicy.Action
