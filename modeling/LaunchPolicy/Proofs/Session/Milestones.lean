import LaunchPolicy.Log.Event
import LaunchPolicy.Proofs.Session.Steady

/-!
The milestones of a run, told from the remarks beside them. What an action notes of milestones is followed
through its steps, as its result is: of a list of items it notes those of the items that it reaches, and
these are the items up to the first that fails.
-/

namespace LaunchPolicy

namespace Event

/-- The type that the record of a milestone carries. Remarks carry none. -/
def type? : Event → Option Text
  | .documentStarted .. => some "document.started"
  | .containerCompiled .. => some "container.compiled"
  | .documentCompiled .. => some "document.compiled"
  | .documentSkipped .. => some "document.skipped"
  | .documentFailed .. => some "document.failed"
  | _ => none

def isMilestone (event : Event) : Bool := event.type?.isSome

end Event

/-- The milestones that are on record, oldest first. -/
def Session.milestones (session : Session) : List Event := session.events.filter Event.isMilestone

theorem Session.milestones_append (session : Session) (events : List Event) :
    { session with events := session.events ++ events }.milestones =
      session.milestones ++ events.filter Event.isMilestone := List.filter_append ..

namespace Compile

variable {α β : Type} {cluster : Option ClusterSettings} {world : World} {session start : Session}
  {told : List Event}

/-- An action notes nothing but remarks. -/
def Remarks (action : Compile α) : Prop :=
  ∀ world session, (action.run world session).2.milestones = session.milestones

section Remarks

theorem remarks_pure (a : α) : (pure a : Compile α).Remarks := fun _ _ => rfl

theorem remarks_throw (failure : Failure) : (throw failure : Compile α).Remarks := fun _ _ => rfl

theorem remarks_of_except (r : Except Failure α) : (ofExcept r).Remarks := fun _ _ => rfl

theorem remarks_ask (call : Call) : (ask call).Remarks := fun _ _ => rfl

theorem remarks_read : (read : Compile World).Remarks := fun _ _ => rfl

theorem remarks_note {event : Event} (remark : event.isMilestone = false) : (note event).Remarks := by
  intro world session
  rw [run_note, Session.milestones_append, List.filter_singleton, remark]
  exact List.append_nil _

theorem Remarks.bind {action : Compile α} {next : α → Compile β} (first : action.Remarks)
    (then_ : ∀ a, (next a).Remarks) : (action >>= next).Remarks := by
  intro world session
  have before := first world session
  rw [run_bind]
  rcases ran : action.run world session with ⟨r, middle⟩
  rw [ran] at before
  cases r with
  | error failure => exact before
  | ok a => exact (then_ a world middle).trans before

end Remarks

/-- The milestones that an action notes in each session with the cluster's answers of the start. -/
def Notes (cluster : Option ClusterSettings) (world : World) (start : Session) (action : Compile α)
    (told : List Event) : Prop :=
  ∀ session, world.answers cluster session = world.answers cluster start →
    (action.run world session).2.milestones = session.milestones ++ told

/-- What is told once there is a result. -/
def onResult (r : Except Failure α) (told : α → List Event) : List Event :=
  match r with
  | .ok a => told a
  | .error _ => []

/-- The items that are worked through in order: up to the first one that fails. -/
def reached (made : α → Except Failure β) : List α → List α
  | [] => []
  | item :: items =>
      match made item with
      | .ok _ => item :: reached made items
      | .error _ => [item]

section Reached

variable {made : α → Except Failure β}

theorem reached_all {items : List α} {results : List β} (all : items.mapM made = .ok results) :
    reached made items = items := by
  have each := Outcome.map_m_ok all
  clear all
  induction each with
  | nil => rfl
  | cons first _ ih => rw [reached, first, ih]

theorem reached_failing {front rest : List α} {item : α} {failure : Failure}
    (before : ∀ other ∈ front, ∃ result, made other = .ok result) (fails : made item = .error failure) :
    reached made (front ++ item :: rest) = front ++ [item] := by
  induction front with
  | nil => rw [List.nil_append, reached, fails, List.nil_append]
  | cons other front ih =>
      obtain ⟨⟨result, done⟩, before⟩ := List.forall_mem_cons.mp before
      rw [List.cons_append, reached, done, ih before, List.cons_append]

end Reached

section Notes

theorem Remarks.notes {action : Compile α} (remarks : action.Remarks) : action.Notes cluster world start [] := by
  intro session _
  rw [remarks, List.append_nil]

theorem notes_event_bind (event : Event) {next : Unit → Compile β}
    (then_ : (next ()).Notes cluster world start told) :
    (note event >>= next).Notes cluster world start ([event].filter Event.isMilestone ++ told) := by
  intro session same
  have noted := then_ { session with events := session.events ++ [event] }
    ((World.answers_congr cluster rfl rfl).trans same)
  rw [Session.milestones_append] at noted
  rw [run_note_bind, noted, List.append_assoc]

theorem notes_note_bind {event : Event} {next : Unit → Compile β} (milestone : event.isMilestone = true)
    (then_ : (next ()).Notes cluster world start told) :
    (note event >>= next).Notes cluster world start (event :: told) := by
  have noted := notes_event_bind event then_
  rwa [List.filter_singleton, milestone] at noted

theorem notes_remark_bind {event : Event} {next : Unit → Compile β} (remark : event.isMilestone = false)
    (then_ : (next ()).Notes cluster world start told) :
    (note event >>= next).Notes cluster world start told := by
  have noted := notes_event_bind event then_
  rwa [List.filter_singleton, remark] at noted

theorem Notes.bind {action : Compile α} {next : α → Compile β} {moreOf : α → List Event}
    (first : action.Notes cluster world start told) (steady : action.Steady cluster world)
    (then_ : ∀ a, (action.run world start).1 = .ok a → (next a).Notes cluster world start (moreOf a)) :
    (action >>= next).Notes cluster world start (told ++ onResult (action.run world start).1 moreOf) := by
  intro session same
  have before := first session same
  have result := steady.decides start session same
  rw [run_bind, ← result]
  rcases ran : action.run world session with ⟨r, middle⟩
  rw [ran] at before result
  cases r with
  | error failure => exact before.trans (by rw [onResult, List.append_nil])
  | ok a =>
      rw [onResult, ← List.append_assoc, ← before]
      exact then_ a result.symm middle ((steady.leaves ran).trans same)

/-- Where only remarks follow. -/
theorem Notes.finish {action : Compile α} {next : α → Compile β}
    (first : action.Notes cluster world start told) (then_ : ∀ a, (next a).Remarks) :
    (action >>= next).Notes cluster world start told := by
  intro session same
  have before := first session same
  rw [run_bind]
  rcases ran : action.run world session with ⟨r, middle⟩
  rw [ran] at before
  cases r with
  | error failure => exact before
  | ok a => exact (then_ a world middle).trans before

/-- What is told once an action has failed. -/
def onFailure (r : Except Failure α) (told : Failure → List Event) : List Event :=
  match r with
  | .ok _ => []
  | .error failure => told failure

theorem Notes.try_catch {action : Compile α} {handle : Failure → Compile α}
    {moreOf : Failure → List Event} (first : action.Notes cluster world start told)
    (steady : action.Steady cluster world)
    (handled : ∀ failure, (action.run world start).1 = .error failure →
      (handle failure).Notes cluster world start (moreOf failure)) :
    (tryCatch action handle).Notes cluster world start
      (told ++ onFailure (action.run world start).1 moreOf) := by
  intro session same
  have before := first session same
  have result := steady.decides start session same
  rw [run_try_catch, ← result]
  rcases ran : action.run world session with ⟨r, middle⟩
  rw [ran] at before result
  cases r with
  | ok a => exact before.trans (by rw [onFailure, List.append_nil])
  | error failure =>
      rw [onFailure, ← List.append_assoc, ← before]
      exact handled failure result.symm middle ((steady.leaves ran).trans same)

theorem Notes.map {action : Compile α} (first : action.Notes cluster world start told) (f : α → β) :
    (f <$> action).Notes cluster world start told := by
  rw [← bind_pure_comp]
  exact first.finish fun a => remarks_pure (f a)

theorem notes_map_m {f : α → Compile β} {items : List α} {toldOf : α → List Event}
    (each : ∀ item ∈ items, (f item).Steady cluster world ∧ (f item).Notes cluster world start (toldOf item)) :
    (items.mapM f).Notes cluster world start
      ((reached (fun item => ((f item).run world start).1) items).flatMap toldOf) := by
  induction items with
  | nil => exact (remarks_pure []).notes
  | cons item items ih =>
      obtain ⟨⟨steady, notes⟩, rest⟩ := List.forall_mem_cons.mp each
      have others := notes.bind steady fun result _ =>
        (ih rest).finish fun results => remarks_pure (result :: results)
      rw [List.mapM_cons, reached]
      cases done : ((f item).run world start).1 with
      | error failure => simpa [done, onResult] using others
      | ok result => simpa [done, onResult] using others

theorem notes_fold {γ : Type} {step : β → α → Compile β} {made : α → Except Failure γ}
    {join : β → γ → β} {items : List α} {toldOf : α → List Event}
    (each : ∀ item ∈ items, ∀ b, (step b item).Steady cluster world ∧
      ((step b item).run world start).1 = (made item).map (join b) ∧
      (step b item).Notes cluster world start (toldOf item)) (b : β) :
    (items.foldlM step b).Notes cluster world start ((reached made items).flatMap toldOf) := by
  induction items generalizing b with
  | nil => exact (remarks_pure b).notes
  | cons item items ih =>
      obtain ⟨here, rest⟩ := List.forall_mem_cons.mp each
      obtain ⟨steady, alone, notes⟩ := here b
      have others := notes.bind steady fun c _ => ih rest c
      rw [List.foldlM_cons, reached]
      rw [alone] at others
      cases done : made item with
      | error failure => simpa [done, onResult, Except.map] using others
      | ok result => simpa [done, onResult, Except.map] using others

end Notes

end Compile

end LaunchPolicy
