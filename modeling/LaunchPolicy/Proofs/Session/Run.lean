import LaunchPolicy.Proofs.Outcome
import LaunchPolicy.Session.Basic
import Mathlib.Data.List.Forall2

/-!
Runs of actions. The result of a run is followed through the steps of an action; what every
step yields, or fails with, the whole action does.
-/

namespace LaunchPolicy

/-- Surroundings that answer nothing. -/
def World.silent : World where
  inspect _ := .timedOut
  configMap _ _ := .refused ""

/-- Surroundings in which every image runs a shell. -/
def World.shell : World where
  inspect _ := .exited 0 "\x7b\"config\": \x7b\"Cmd\": [\"sh\"]\x7d\x7d" ""
  configMap _ _ := .refused ""

namespace Compile

variable {α β : Type} {world : World} {session after : Session}

@[simp] theorem run_pure (a : α) (world : World) (session : Session) :
    (pure a : Compile α).run world session = (.ok a, session) := rfl

@[simp] theorem run_of_except (r : Except Failure α) (world : World) (session : Session) :
    (ofExcept r).run world session = (r, session) := rfl

@[simp] theorem run_note (event : Event) (world : World) (session : Session) :
    (note event).run world session =
      (.ok (), { session with events := session.events ++ [event] }) := rfl

@[simp] theorem run_ask (call : Call) (world : World) (session : Session) :
    (ask call).run world session =
      (.ok (), { session with calls := session.calls ++ [call] }) := rfl

@[simp] theorem run_read (world : World) (session : Session) :
    (read : Compile World).run world session = (.ok world, session) := rfl

@[simp] theorem run_get (world : World) (session : Session) :
    (get : Compile Session).run world session = (.ok session, session) := rfl

@[simp] theorem run_modify (change : Session → Session) (world : World) (session : Session) :
    (modify change : Compile Unit).run world session = (.ok (), change session) := rfl

@[simp] theorem run_throw (failure : Failure) (world : World) (session : Session) :
    (throw failure : Compile α).run world session = (.error failure, session) := rfl

theorem run_of_result {action : Compile α} {r : Except Failure α}
    (result : (action.run world session).1 = r) :
    ∃ after, action.run world session = (r, after) := ⟨_, Prod.ext result rfl⟩

theorem run_bind (action : Compile α) (next : α → Compile β) (world : World) (session : Session) :
    (action >>= next).run world session =
      match action.run world session with
      | (.ok a, middle) => (next a).run world middle
      | (.error failure, middle) => (.error failure, middle) := by
  rcases result : action.run world session with ⟨r, middle⟩
  change StateT.bind (action world) (ExceptT.bindCont fun a => next a world) session = _
  simp only [StateT.bind, show action world session = (r, middle) from result, bind]
  cases r <;> rfl

theorem run_try_catch (action : Compile α) (handle : Failure → Compile α) (world : World)
    (session : Session) :
    (tryCatch action handle).run world session =
      match action.run world session with
      | (.ok a, middle) => (.ok a, middle)
      | (.error failure, middle) => (handle failure).run world middle := by
  rcases result : action.run world session with ⟨r, middle⟩
  change ExceptT.tryCatch (action world) (fun failure => handle failure world) session = _
  simp only [ExceptT.tryCatch, ExceptT.mk, StateT.bind, bind,
    show action world session = (r, middle) from result]
  cases r <;> rfl

/-- A result comes by way of a result of the first step. -/
theorem run_bind_ok_iff {action : Compile α} {next : α → Compile β} {b : β} :
    (action >>= next).run world session = (.ok b, after) ↔
      ∃ a middle, action.run world session = (.ok a, middle) ∧
        (next a).run world middle = (.ok b, after) := by
  rw [run_bind]
  rcases action.run world session with ⟨r, middle⟩
  cases r <;> simp

theorem run_bind_error_iff {action : Compile α} {next : α → Compile β} {failure : Failure} :
    (action >>= next).run world session = (.error failure, after) ↔
      action.run world session = (.error failure, after) ∨
        ∃ a middle, action.run world session = (.ok a, middle) ∧
          (next a).run world middle = (.error failure, after) := by
  rw [run_bind]
  rcases action.run world session with ⟨r, middle⟩
  cases r <;> simp

@[simp] theorem run_of_policy (r : Except PolicyError α) (world : World) (session : Session) :
    (ofPolicy r).run world session = (r.mapError .policy, session) := rfl

@[simp] theorem run_of_fault (r : Except Fault α) (world : World) (session : Session) :
    (ofFault r).run world session = (r.mapError .data, session) := rfl

/-- What is only read leaves the session to the steps after it. -/
theorem run_of_except_bind_ok_iff {r : Except Failure α} {next : α → Compile β} {b : β} :
    (ofExcept r >>= next).run world session = (.ok b, after) ↔
      ∃ a, r = .ok a ∧ (next a).run world session = (.ok b, after) := by
  rw [run_bind, run_of_except]
  cases r <;> simp

theorem run_of_policy_bind_ok_iff {r : Except PolicyError α} {next : α → Compile β} {b : β} :
    (ofPolicy r >>= next).run world session = (.ok b, after) ↔
      ∃ a, r = .ok a ∧ (next a).run world session = (.ok b, after) := by
  rw [ofPolicy, run_of_except_bind_ok_iff]
  cases r <;> simp [Except.mapError]

theorem of_policy_ok_bind (a : α) (next : α → Compile β) : (ofPolicy (.ok a) >>= next) = next a := rfl

theorem run_machine_bind (next : Machine → Compile β) (world : World) (session : Session) :
    (machine >>= next).run world session = (next world.machine).run world session := by
  rw [run_bind]
  rfl

theorem run_note_bind (event : Event) (next : Unit → Compile β) (world : World)
    (session : Session) :
    (note event >>= next).run world session =
      (next ()).run world { session with events := session.events ++ [event] } := by
  rw [run_bind, run_note]

theorem run_map (action : Compile α) (f : α → β) (world : World) (session : Session) :
    (f <$> action).run world session =
      match action.run world session with
      | (.ok a, middle) => (.ok (f a), middle)
      | (.error failure, middle) => (.error failure, middle) := by
  rw [← bind_pure_comp, run_bind]
  rcases action.run world session with ⟨r, middle⟩
  cases r <;> rfl

/-- Items worked through in order, each in the session that the one before it left. -/
inductive Passes (step : α → Session → β → Session → Prop) :
    Session → List α → List β → Session → Prop
  | nil {session : Session} : Passes step session [] [] session
  | cons {session middle after : Session} {item : α} {result : β} {items : List α}
      {results : List β} (first : step item session result middle)
      (others : Passes step middle items results after) :
      Passes step session (item :: items) (result :: results) after

theorem run_map_m_passes {f : α → Compile β} {items : List α} {results : List β}
    (ran : (items.mapM f).run world session = (.ok results, after)) :
    Passes (fun item before result later => (f item).run world before = (.ok result, later))
      session items results after := by
  induction items generalizing session results with
  | nil =>
      obtain ⟨rfl, rfl⟩ : [] = results ∧ session = after := by simpa using ran
      exact .nil
  | cons item items ih =>
      rw [List.mapM_cons] at ran
      obtain ⟨result, middle, first, ran⟩ := run_bind_ok_iff.mp ran
      obtain ⟨rest, last, others, ran⟩ := run_bind_ok_iff.mp ran
      obtain ⟨rfl, rfl⟩ : result :: rest = results ∧ last = after := by simpa using ran
      exact .cons first (ih others)

section Passes

variable {step : α → Session → β → Session → Prop} {items : List α} {results : List β}

/-- What every step establishes relates the items and their results in order. -/
theorem Passes.relates {related : α → β → Prop} (passes : Passes step session items results after)
    (each : ∀ item ∈ items, ∀ before result later, step item before result later →
      related item result) : List.Forall₂ related items results := by
  induction passes with
  | nil => exact .nil
  | cons first _ ih =>
      obtain ⟨here, rest⟩ := List.forall_mem_cons.mp each
      exact .cons (here _ _ _ first) (ih rest)

theorem Passes.related (passes : Passes step session items results after) :
    List.Forall₂ (fun item result => ∃ before later, step item before result later)
      items results :=
  passes.relates fun _ _ before _ later ran => ⟨before, later, ran⟩

theorem Passes.map {γ : Type} {stepOf : γ → Session → β → Session → Prop} {part : α → γ}
    (passes : Passes step session items results after)
    (each : ∀ item before result later, step item before result later →
      stepOf (part item) before result later) :
    Passes stepOf session (items.map part) results after := by
  induction passes with
  | nil => exact .nil
  | cons first _ ih => exact .cons (each _ _ _ _ first) ih

theorem Passes.imp {stepOf : α → Session → β → Session → Prop}
    (passes : Passes step session items results after)
    (each : ∀ item before result later, step item before result later →
      stepOf item before result later) : Passes stepOf session items results after := by
  induction passes with
  | nil => exact .nil
  | cons first _ ih => exact .cons (each _ _ _ _ first) ih

end Passes

theorem run_map_m_ok {f : α → Compile β} {items : List α} {results : List β}
    (ran : (items.mapM f).run world session = (.ok results, after)) :
    List.Forall₂ (fun item result => ∃ before later, (f item).run world before = (.ok result, later))
      items results :=
  (run_map_m_passes ran).related

/-- Every result of an action has a property. -/
def Yields (holds : α → Prop) (action : Compile α) : Prop :=
  ∀ world session a after, action.run world session = (.ok a, after) → holds a

/-- Every failure of an action in given surroundings is among some. -/
def FailsIn (world : World) (allowed : Failure → Prop) (action : Compile α) : Prop :=
  ∀ session failure after, action.run world session = (.error failure, after) → allowed failure

section Yields

variable {holds : α → Prop} {holdsNext : β → Prop}

theorem yields_pure {a : α} (holdsIt : holds a) : (pure a : Compile α).Yields holds := by
  intro world session result after ran
  obtain ⟨rfl, -⟩ : a = result ∧ session = after := by simpa using ran
  exact holdsIt

theorem yields_of_policy (r : Except PolicyError α) : (ofPolicy r).Yields fun a => r = .ok a := by
  intro world session a after ran
  exact Outcome.map_error_ok_iff.mp (congrArg Prod.fst ran)

theorem Yields.bind {action : Compile α} {next : α → Compile β} (first : action.Yields holds)
    (then_ : ∀ a, holds a → (next a).Yields holdsNext) : (action >>= next).Yields holdsNext := by
  intro world session b after ran
  obtain ⟨a, middle, start, finish⟩ := run_bind_ok_iff.mp ran
  exact then_ a (first world session a middle start) world middle b after finish

/-- Where nothing needs to be known of the first step. -/
theorem yields_bind {action : Compile α} {next : α → Compile β}
    (then_ : ∀ a, (next a).Yields holdsNext) : (action >>= next).Yields holdsNext := by
  have anything : action.Yields fun _ => True := fun _ _ _ _ _ => trivial
  exact anything.bind fun a _ => then_ a

/-- After a step that yields something of a kind, actions that are the same for the kind are the same. -/
theorem Yields.bind_congr {action : Compile α} {next other : α → Compile β} (first : action.Yields holds)
    (same : ∀ a, holds a → next a = other a) : action >>= next = action >>= other := by
  funext world session
  change (action >>= next).run world session = (action >>= other).run world session
  rw [run_bind, run_bind]
  rcases ran : action.run world session with ⟨r, middle⟩
  cases r with
  | error failure => rfl
  | ok a =>
      simp only
      rw [same a (first world session a middle ran)]

/-- What is caught yields what its handling does. -/
theorem Yields.try_catch {action : Compile α} {handle : Failure → Compile α}
    (first : action.Yields holds) (handled : ∀ failure, (handle failure).Yields holds) :
    (tryCatch action handle).Yields holds := by
  intro world session a after ran
  rw [run_try_catch] at ran
  rcases result : action.run world session with ⟨r, middle⟩
  rw [result] at ran
  cases r with
  | ok b =>
      obtain ⟨rfl, rfl⟩ : b = a ∧ middle = after := by simpa using ran
      exact first world session b middle result
  | error caught => exact handled caught world middle a after ran

theorem yields_throw (failure : Failure) : (throw failure : Compile α).Yields holds := by
  intro world session a after ran
  exact absurd (congrArg Prod.fst ran) (by simp)

/-- An invariant of the steps of a fold is one of its result. -/
theorem yields_fold {step : β → α → Compile β} {items : List α} {start : β}
    (holdsStart : holdsNext start)
    (each : ∀ b, ∀ item ∈ items, holdsNext b → (step b item).Yields holdsNext) :
    (items.foldlM step start).Yields holdsNext := by
  induction items generalizing start with
  | nil => exact yields_pure holdsStart
  | cons item items ih =>
      rw [List.foldlM_cons]
      exact (each start item (by simp) holdsStart).bind fun b holdsB =>
        ih holdsB fun c other member => each c other (List.mem_cons_of_mem _ member)

end Yields

section FailsIn

variable {allowed : Failure → Prop}

theorem fails_in_pure (a : α) : (pure a : Compile α).FailsIn world allowed := by
  intro session failure after ran
  exact absurd (congrArg Prod.fst ran) (by simp)

theorem fails_in_note (event : Event) : (note event).FailsIn world allowed := by
  intro session failure after ran
  exact absurd (congrArg Prod.fst ran) (by simp)

theorem fails_in_ask (call : Call) : (ask call).FailsIn world allowed := by
  intro session failure after ran
  exact absurd (congrArg Prod.fst ran) (by simp)

theorem fails_in_get : (get : Compile Session).FailsIn world allowed := by
  intro session failure after ran
  exact absurd (congrArg Prod.fst ran) (by simp)

theorem fails_in_modify (change : Session → Session) :
    (modify change : Compile Unit).FailsIn world allowed := by
  intro session failure after ran
  exact absurd (congrArg Prod.fst ran) (by simp)

theorem fails_in_of_except {r : Except Failure α}
    (each : ∀ failure, r = .error failure → allowed failure) :
    (ofExcept r).FailsIn world allowed := by
  intro session failure after ran
  exact each failure (congrArg Prod.fst ran)

theorem fails_in_of_policy {r : Except PolicyError α}
    (each : ∀ e, r = .error e → allowed (.policy e)) : (ofPolicy r).FailsIn world allowed := by
  apply fails_in_of_except
  intro failure read
  obtain ⟨e, failed, rfl⟩ := Outcome.map_error_error_iff.mp read
  exact each e failed

theorem fails_in_of_fault {r : Except Fault α}
    (each : ∀ fault, r = .error fault → allowed (.data fault)) :
    (ofFault r).FailsIn world allowed := by
  apply fails_in_of_except
  intro failure read
  obtain ⟨fault, failed, rfl⟩ := Outcome.map_error_error_iff.mp read
  exact each fault failed

theorem FailsIn.weaken {action : Compile α} {more : Failure → Prop}
    (fails : action.FailsIn world allowed) (each : ∀ failure, allowed failure → more failure) :
    action.FailsIn world more :=
  fun session failure after ran => each failure (fails session failure after ran)

/-- A second step fails on what the first step can have led to. -/
theorem FailsIn.bind_ran {action : Compile α} {next : α → Compile β}
    (first : action.FailsIn world allowed)
    (then_ : ∀ session a middle, action.run world session = (.ok a, middle) →
      (next a).FailsIn world allowed) : (action >>= next).FailsIn world allowed := by
  intro session failure after ran
  rcases run_bind_error_iff.mp ran with ran | ⟨a, middle, start, ran⟩
  · exact first session failure after ran
  · exact then_ session a middle start middle failure after ran

theorem FailsIn.bind {action : Compile α} {next : α → Compile β}
    (first : action.FailsIn world allowed) (then_ : ∀ a, (next a).FailsIn world allowed) :
    (action >>= next).FailsIn world allowed := first.bind_ran fun _ a _ _ => then_ a

/-- The surroundings that are read are those of the action. -/
theorem fails_in_read_bind {next : World → Compile β} (then_ : (next world).FailsIn world allowed) :
    ((read : Compile World) >>= next).FailsIn world allowed := by
  intro session failure after ran
  rw [run_bind, run_read] at ran
  exact then_ session failure after ran

theorem fails_in_map_m {f : α → Compile β} {items : List α}
    (each : ∀ item ∈ items, (f item).FailsIn world allowed) :
    (items.mapM f).FailsIn world allowed := by
  induction items with
  | nil => exact fails_in_pure []
  | cons item items ih =>
      obtain ⟨here, rest⟩ := List.forall_mem_cons.mp each
      rw [List.mapM_cons]
      apply here.bind
      intro result
      exact (ih rest).bind fun results => fails_in_pure _

theorem fails_in_fold {step : β → α → Compile β} {items : List α} {start : β}
    (each : ∀ b, ∀ item ∈ items, (step b item).FailsIn world allowed) :
    (items.foldlM step start).FailsIn world allowed := by
  induction items generalizing start with
  | nil => exact fails_in_pure start
  | cons item items ih =>
      rw [List.foldlM_cons]
      exact (each start item (by simp)).bind fun b =>
        ih fun c other member => each c other (List.mem_cons_of_mem _ member)

/-- What is caught and passed on is no new failure. -/
theorem FailsIn.try_catch {action : Compile α} {handle : Failure → Compile α}
    (first : action.FailsIn world allowed)
    (handled : ∀ failure, allowed failure → (handle failure).FailsIn world allowed) :
    (tryCatch action handle).FailsIn world allowed := by
  intro session failure after ran
  rw [run_try_catch] at ran
  rcases result : action.run world session with ⟨r, middle⟩
  rw [result] at ran
  cases r with
  | ok a => exact absurd (congrArg Prod.fst ran) (by simp)
  | error caught =>
      exact handled caught (first session caught middle result) middle failure after ran

end FailsIn

end Compile

end LaunchPolicy
