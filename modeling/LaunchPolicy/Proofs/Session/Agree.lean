import LaunchPolicy.Proofs.Session.Run

/-!
Readings and runs that agree: both fail with one failure, or both have results that are related. Runs
that agree leave the same session.
-/

namespace LaunchPolicy

namespace Outcome

variable {ε α β γ δ : Type}

inductive Agree (related : α → β → Prop) : Except ε α → Except ε β → Prop
  | error (e : ε) : Agree related (.error e) (.error e)
  | ok {a : α} {b : β} (this : related a b) : Agree related (.ok a) (.ok b)

variable {related : α → β → Prop} {relatedNext : γ → δ → Prop} {left : Except ε α}
  {right : Except ε β}

namespace Agree

theorem refl {same : α → α → Prop} (each : ∀ a, same a a) (r : Except ε α) : Agree same r r := by
  cases r with
  | error e => exact .error e
  | ok a => exact .ok (each a)

/-- What is known of the results of the readings may be used. -/
theorem imp_ok {relatedToo : α → β → Prop} (agree : Agree related left right)
    (each : ∀ a b, left = .ok a → related a b → relatedToo a b) : Agree relatedToo left right := by
  cases agree with
  | error e => exact .error e
  | ok this => exact .ok (each _ _ rfl this)

/-- Related results are the results of the readings. -/
theorem known (agree : Agree related left right) :
    Agree (fun a b => left = .ok a ∧ right = .ok b ∧ related a b) left right := by
  cases agree with
  | error e => exact .error e
  | ok this => exact .ok ⟨rfl, rfl, this⟩

theorem of_ok {a : α} (agree : Agree related (.ok a) right) : ∃ b, right = .ok b ∧ related a b := by
  cases agree with
  | ok this => exact ⟨_, rfl, this⟩

theorem imp {relatedToo : α → β → Prop} (agree : Agree related left right)
    (each : ∀ a b, related a b → relatedToo a b) : Agree relatedToo left right :=
  agree.imp_ok fun a b _ => each a b

theorem bind {next : α → Except ε γ} {nextToo : β → Except ε δ} (agree : Agree related left right)
    (then_ : ∀ a b, related a b → Agree relatedNext (next a) (nextToo b)) :
    Agree relatedNext (left >>= next) (right >>= nextToo) := by
  cases agree with
  | error e => exact .error e
  | ok this => exact then_ _ _ this

/-- Where the first step is the same. -/
theorem bind_same {first : Except ε α} {next : α → Except ε γ} {nextToo : α → Except ε δ}
    (then_ : ∀ a, Agree relatedNext (next a) (nextToo a)) :
    Agree relatedNext (first >>= next) (first >>= nextToo) := by
  cases first with
  | error e => exact .error e
  | ok a => exact then_ a

/-- What is made of one of the results in the end. -/
theorem bind_right {through : α → γ → Prop} {next : β → Except ε γ} (agree : Agree related left right)
    (then_ : ∀ a b, related a b → ∃ c, next b = .ok c ∧ through a c) :
    Agree through left (right >>= next) := by
  cases agree with
  | error e => exact .error e
  | @ok a b this =>
      obtain ⟨c, made, that⟩ := then_ a b this
      have whole : ((Except.ok b : Except ε β) >>= next) = .ok c := made
      rw [whole]
      exact .ok that

/-- Where the second steps have the same outcome. -/
theorem bind_eq {next : α → Except ε γ} {nextToo : β → Except ε γ} (agree : Agree related left right)
    (then_ : ∀ a b, related a b → next a = nextToo b) : (left >>= next) = (right >>= nextToo) := by
  cases agree with
  | error e => rfl
  | ok this => exact then_ _ _ this

theorem map_error (agree : Agree related left right) {ι : Type} (f : ε → ι) :
    Agree related (left.mapError f) (right.mapError f) := by
  cases agree with
  | error e => exact .error (f e)
  | ok this => exact .ok this

theorem map_eq {f : α → γ} {g : β → γ} (agree : Agree related left right)
    (each : ∀ a b, related a b → f a = g b) : left.map f = right.map g := by
  cases agree with
  | error e => rfl
  | ok this => exact congrArg Except.ok (each _ _ this)

theorem symm {swapped : β → α → Prop} (agree : Agree related left right)
    (each : ∀ a b, related a b → swapped b a) : Agree swapped right left := by
  cases agree with
  | error e => exact .error e
  | ok this => exact .ok (each _ _ this)

theorem trans {relatedToo : β → γ → Prop} {through : α → γ → Prop} {last : Except ε γ}
    (agree : Agree related left right) (more : Agree relatedToo right last)
    (each : ∀ a b c, related a b → relatedToo b c → through a c) : Agree through left last := by
  cases agree with
  | error e => cases more; exact .error e
  | ok this => cases more with | ok that => exact .ok (each _ _ _ this that)

end Agree

/-- Items that come to the same, one by one, do so together. -/
theorem map_m_congr {m : Type → Type} [Monad m] [LawfulMonad m] {items : List α} {others : List β}
    {f : α → m γ} {g : β → m γ} (all : List.Forall₂ (fun a b => f a = g b) items others) :
    items.mapM f = others.mapM g := by
  induction all with
  | nil => rw [List.mapM_nil, List.mapM_nil]
  | cons this _ ih => rw [List.mapM_cons, List.mapM_cons, this, ih]

theorem map_m_agree {f : α → Except ε γ} {g : β → Except ε δ} {items : List α} {others : List β}
    (all : List.Forall₂ (fun a b => Agree relatedNext (f a) (g b)) items others) :
    Agree (List.Forall₂ relatedNext) (items.mapM f) (others.mapM g) := by
  induction all with
  | nil => exact .ok .nil
  | cons this _ ih =>
      rw [List.mapM_cons, List.mapM_cons]
      exact this.bind fun _ _ first => ih.bind fun _ _ rest => .ok (.cons first rest)

/-- Related items have the same numbers. -/
theorem related_numbered {items : List α} {others : List β} (all : List.Forall₂ related items others)
    (start : Nat) : List.Forall₂ (fun item other => item.2 = other.2 ∧ related item.1 other.1)
      (items.zipIdx start) (others.zipIdx start) := by
  induction all generalizing start with
  | nil => exact .nil
  | cons this _ ih => exact .cons ⟨rfl, this⟩ (ih (start + 1))

theorem fold_m_congr {m : Type → Type} [Monad m] [LawfulMonad m] {items : List α} {others : List β}
    {f : γ → α → m γ} {g : γ → β → m γ}
    (all : List.Forall₂ (fun a b => ∀ c, f c a = g c b) items others) (start : γ) :
    items.foldlM f start = others.foldlM g start := by
  induction all generalizing start with
  | nil => rw [List.foldlM_nil, List.foldlM_nil]
  | cons this _ ih =>
      rw [List.foldlM_cons, List.foldlM_cons, this]
      exact bind_congr ih

end Outcome

namespace Compile

open Outcome (Agree)

variable {α β γ δ : Type} {related : α → β → Prop} {relatedNext : γ → δ → Prop}
  {left : Compile α} {right : Compile β}

/-- Actions that agree in all surroundings and sessions. -/
def Agrees (related : α → β → Prop) (left : Compile α) (right : Compile β) : Prop :=
  ∀ world session, Agree related (left.run world session).1 (right.run world session).1 ∧
    (left.run world session).2 = (right.run world session).2

theorem agrees_refl {same : α → α → Prop} (each : ∀ a, same a a) (action : Compile α) :
    action.Agrees same action := fun _ _ => ⟨.refl each _, rfl⟩

theorem agrees_pure {a : α} {b : β} (this : related a b) :
    (pure a : Compile α).Agrees related (pure b : Compile β) := fun _ _ => ⟨.ok this, rfl⟩

theorem agrees_throw (failure : Failure) :
    (throw failure : Compile α).Agrees related (throw failure : Compile β) :=
  fun _ _ => ⟨.error failure, rfl⟩

theorem agrees_of_except {r : Except Failure α} {t : Except Failure β} (agree : Agree related r t) :
    (ofExcept r).Agrees related (ofExcept t) := fun _ _ => ⟨agree, rfl⟩

theorem agrees_of_policy {r : Except PolicyError α} {t : Except PolicyError β}
    (agree : Agree related r t) : (ofPolicy r).Agrees related (ofPolicy t) :=
  agrees_of_except (agree.map_error _)

/-- What is read alike and gone on with by the same action is the same action. -/
theorem of_policy_bind_eq {r : Except PolicyError α} {t : Except PolicyError β} {next : α → Compile γ}
    {nextToo : β → Compile γ} (agree : Agree related r t)
    (then_ : ∀ a b, related a b → next a = nextToo b) :
    (ofPolicy r >>= next) = (ofPolicy t >>= nextToo) := by
  cases agree with
  | error e => rfl
  | ok this => exact then_ _ _ this

theorem Agrees.bind {next : α → Compile γ} {nextToo : β → Compile δ} (agrees : left.Agrees related right)
    (then_ : ∀ a b, related a b → (next a).Agrees relatedNext (nextToo b)) :
    (left >>= next).Agrees relatedNext (right >>= nextToo) := by
  intro world session
  obtain ⟨outcome, sessions⟩ := agrees world session
  rw [run_bind, run_bind]
  generalize left.run world session = first, right.run world session = second at outcome sessions ⊢
  obtain ⟨r, middle⟩ := first
  obtain ⟨t, other⟩ := second
  obtain rfl : middle = other := sessions
  dsimp only at outcome
  cases outcome with
  | error e => exact ⟨.error e, rfl⟩
  | ok this => exact then_ _ _ this world middle

theorem Agrees.map {f : α → γ} {g : β → δ} (agrees : left.Agrees related right)
    (each : ∀ a b, related a b → relatedNext (f a) (g b)) :
    (f <$> left).Agrees relatedNext (g <$> right) := by
  rw [← bind_pure_comp, ← bind_pure_comp]
  exact agrees.bind fun a b this => agrees_pure (each a b this)

/-- Failures are handled alike where they are handled by the same handler. -/
theorem Agrees.try_catch {handle : Failure → Compile α} {handleToo : Failure → Compile β}
    (agrees : left.Agrees related right)
    (handled : ∀ failure, (handle failure).Agrees related (handleToo failure)) :
    (tryCatch left handle).Agrees related (tryCatch right handleToo) := by
  intro world session
  obtain ⟨outcome, sessions⟩ := agrees world session
  rw [run_try_catch, run_try_catch]
  generalize left.run world session = first, right.run world session = second at outcome sessions ⊢
  obtain ⟨r, middle⟩ := first
  obtain ⟨t, other⟩ := second
  obtain rfl : middle = other := sessions
  dsimp only at outcome
  cases outcome with
  | error e => exact handled e world middle
  | ok this => exact ⟨.ok this, rfl⟩

end Compile

end LaunchPolicy
