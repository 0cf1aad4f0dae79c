import LaunchPolicy.Proofs.Yaml.Tree
import LaunchPolicy.Yaml.Writer

/-!
Documents without anchors. The values that are met while a document is searched for repetitions lie
below the places where the search has been, so where every value has one place none is met again.
-/

namespace LaunchPolicy.Yaml

/-- The position in its collection that a step goes to. -/
def Step.index : Step → Nat
  | .item i | .first i | .second i | .key i | .value i => i

namespace Meetings

/-- Nothing has been met twice, and nothing of a region once. -/
structure Avoids (m : Meetings) (region : Nat → Prop) : Prop where
  once : m.again = []
  new : ∀ id ∈ m.met, ¬ region id

/-- Nothing has been met twice, and nothing new outside of a region. -/
structure Meets (m after : Meetings) (region : Nat → Prop) : Prop where
  once : after.again = []
  within : ∀ id ∈ after.met, id ∈ m.met ∨ region id

variable {m middle after : Meetings} {region other : Nat → Prop}

theorem Avoids.weaken (avoids : m.Avoids region) (part : ∀ id, other id → region id) :
    m.Avoids other := ⟨avoids.once, fun id met here => avoids.new id met (part id here)⟩

theorem Avoids.unchanged (avoids : m.Avoids region) : m.Meets m other :=
  ⟨avoids.once, fun _ met => .inl met⟩

theorem Meets.weaken (meets : m.Meets after region) (part : ∀ id, region id → other id) :
    m.Meets after other := ⟨meets.once, fun id met => (meets.within id met).imp_right (part id)⟩

theorem Meets.avoids (meets : m.Meets after region) (avoids : m.Avoids other)
    (apart : ∀ id, region id → ¬ other id) : after.Avoids other :=
  ⟨meets.once, fun id met => (meets.within id met).elim (avoids.new id) (apart id)⟩

theorem Meets.trans (first : m.Meets middle region) (second : middle.Meets after region) :
    m.Meets after region := by
  refine ⟨second.once, fun id met => ?_⟩
  rcases second.within id met with before | here
  · exact first.within id before
  · exact .inr here

theorem Avoids.meet {id : Nat} (avoids : m.Avoids region) (here : region id) :
    m.meet id = ({ m with met := id :: m.met }, true) := by
  have new : m.met.contains id = false := by
    rw [Bool.eq_false_iff, ne_eq, List.contains_iff_mem]
    exact fun met => avoids.new id met here
  simp only [Meetings.meet, new, Bool.false_eq_true, if_false]

theorem Avoids.meet_meets {id : Nat} (avoids : m.Avoids region) (here : region id) :
    m.Meets (m.meet id).1 region := by
  rw [avoids.meet here]
  refine ⟨avoids.once, fun other met => ?_⟩
  rcases List.mem_cons.mp met with rfl | before
  · exact .inr here
  · exact .inl before

/-- Items whose regions have nothing in common are met one after the other. -/
theorem fold_meets {α : Type} {visit : Meetings → α → Meetings} {regions : Nat → Nat → Prop}
    (apart : ∀ i j id, regions i id → regions j id → i = j) {items : List α} {start : Nat}
    (each : ∀ i item (m : Meetings), items[i]? = some item → m.Avoids (regions (start + i)) →
      m.Meets (visit m item) (regions (start + i)))
    (avoids : m.Avoids fun id => ∃ i, start ≤ i ∧ regions i id) :
    m.Meets (items.foldl visit m) fun id => ∃ i, start ≤ i ∧ regions i id := by
  induction items generalizing start m with
  | nil => exact avoids.unchanged
  | cons item items ih =>
      have first : m.Meets (visit m item) (regions start) :=
        each 0 item m rfl (avoids.weaken fun id here => ⟨start, Nat.le_refl _, here⟩)
      have later : (visit m item).Avoids fun id => ∃ i, start + 1 ≤ i ∧ regions i id := by
        apply first.avoids (avoids.weaken fun id ⟨i, le, here⟩ => ⟨i, Nat.le_of_succ_le le, here⟩)
        rintro id here ⟨i, le, there⟩
        have same := apart start i id here there
        omega
      have rest := ih (fun i item m found avoids => by
        have shifted : start + 1 + i = start + (i + 1) := by omega
        rw [shifted] at avoids ⊢
        exact each (i + 1) item m found avoids) later
      apply (first.weaken fun id here => ⟨start, Nat.le_refl _, here⟩).trans
      exact rest.weaken fun id ⟨i, le, here⟩ => ⟨i, Nat.le_of_succ_le le, here⟩

end Meetings

namespace Graph

variable {g : Graph} {path : List Step} {id : Nat}

/-- The values that have a place at the end of a path or beyond it. -/
def Beyond (g : Graph) (path : List Step) (id : Nat) : Prop :=
  ∃ more, g.place? g.root (path ++ more) = some id

/-- The values beyond a position of the collection at the end of a path. -/
def BeyondEntry (g : Graph) (path : List Step) (i id : Nat) : Prop :=
  ∃ step : Step, step.index = i ∧ g.Beyond (path ++ [step]) id

theorem Beyond.of_step {step : Step} (beyond : g.Beyond (path ++ [step]) id) : g.Beyond path id := by
  obtain ⟨more, found⟩ := beyond
  rw [List.append_assoc] at found
  exact ⟨step :: more, found⟩

theorem IsTree.step_eq (tree : g.IsTree) {step other : Step} (here : g.Beyond (path ++ [step]) id)
    (there : g.Beyond (path ++ [other]) id) : step = other := by
  obtain ⟨more, found⟩ := here
  obtain ⟨otherMore, otherFound⟩ := there
  have same := tree id _ _ found otherFound
  rw [List.append_assoc, List.append_assoc] at same
  exact (List.cons.inj (List.append_cancel_left same)).1

theorem IsTree.not_beyond_step (tree : g.IsTree) {step : Step}
    (found : g.place? g.root path = some id) : ¬ g.Beyond (path ++ [step]) id := by
  rintro ⟨more, again⟩
  have same := tree id _ _ found again
  rw [List.append_assoc] at same
  simp at same

/-- The parts of a collection are met after it. -/
theorem IsTree.entries_meet (tree : g.IsTree) (found : g.place? g.root path = some id)
    {m : Meetings} (avoids : m.Avoids (g.Beyond path)) {α : Type} {items : List α}
    {visit : Meetings → α → Meetings}
    (each : ∀ i item (m : Meetings), items[i]? = some item → m.Avoids (g.BeyondEntry path i) →
      m.Meets (visit m item) (g.BeyondEntry path i)) :
    m.Meets (items.foldl visit (m.meet id).1) (g.Beyond path) := by
  have here : g.Beyond path id := ⟨[], by rw [List.append_nil]; exact found⟩
  have met : m.Meets (m.meet id).1 (· = id) := by
    rw [avoids.meet here]
    exact ⟨avoids.once, fun other met => (List.mem_cons.mp met).symm⟩
  have fresh : (m.meet id).1.Avoids fun part => ∃ i, 0 ≤ i ∧ g.BeyondEntry path i part := by
    apply met.avoids (avoids.weaken fun part ⟨i, _, step, _, beyond⟩ => beyond.of_step)
    rintro part rfl ⟨i, -, step, -, beyond⟩
    exact tree.not_beyond_step found beyond
  have apart : ∀ i j part, g.BeyondEntry path i part → g.BeyondEntry path j part → i = j := by
    rintro i j part ⟨step, rfl, beyond⟩ ⟨other, rfl, otherBeyond⟩
    rw [tree.step_eq beyond otherBeyond]
  have parts : (m.meet id).1.Meets (items.foldl visit (m.meet id).1)
      fun part => ∃ i, 0 ≤ i ∧ g.BeyondEntry path i part := by
    refine Meetings.fold_meets apart (fun i item m member avoids => ?_) fresh
    rw [Nat.zero_add] at avoids ⊢
    exact each i item m member avoids
  apply (avoids.meet_meets here).trans
  exact parts.weaken fun part ⟨i, _, step, _, beyond⟩ => beyond.of_step

theorem meet_key_meets {m : Meetings} (key : Key) (avoids : m.Avoids (g.Beyond path))
    (numbered : ∀ id, key.id = some id → g.place? g.root path = some id) :
    m.Meets (m.meetKey key) (g.Beyond path) := by
  rw [Meetings.meetKey]
  split
  · rename_i id known
    split
    · exact avoids.unchanged
    · apply avoids.meet_meets
      exact ⟨[], by rw [List.append_nil]; exact numbered id known⟩
  · exact avoids.unchanged

/-- A search of a document without repetitions meets the values at and below its start. -/
theorem IsTree.meet_all_meets (tree : g.IsTree) (fuel : Nat)
    (found : g.place? g.root path = some id) {m : Meetings} (avoids : m.Avoids (g.Beyond path)) :
    m.Meets (Meetings.meetAll g fuel m id) (g.Beyond path) := by
  induction fuel generalizing path id m with
  | zero => exact avoids.unchanged
  | succ fuel ih =>
      have here : g.Beyond path id := ⟨[], by rw [List.append_nil]; exact found⟩
      have meets : m.meet id = ((m.meet id).1, true) := by rw [avoids.meet here]
      rw [Meetings.meetAll]
      split
      · exact avoids.unchanged
      · split
        · exact avoids.unchanged
        · exact avoids.meet_meets here
      · rename_i content scalar known
        have next : ∀ {step part}, content.part? step = some part →
            g.place? g.root (path ++ [step]) = some part := fun leads =>
          place_concat found (by rw [part?, known]; exact leads)
        rw [meets]
        -- the parts of one entry are two values at most, which have different places
        cases content with
        | scalar s => exact absurd rfl (scalar s)
        | list items =>
            apply tree.entries_meet found avoids
            intro i item m member avoids
            have part : (Content.list items).part? (.item i) = some item := member
            exact (ih (next part) (avoids.weaken fun id beyond => ⟨_, rfl, beyond⟩)).weaken
              fun id beyond => ⟨_, rfl, beyond⟩
        | set members =>
            apply tree.entries_meet found avoids
            intro i member m position avoids
            refine (meet_key_meets member (avoids.weaken fun id beyond => ⟨.key i, rfl, beyond⟩)
              fun id numbered => ?_).weaken fun id beyond => ⟨.key i, rfl, beyond⟩
            exact next (by rw [Content.part?, position]; exact numbered)
        | pairs entries =>
            apply tree.entries_meet found avoids
            intro i entry m position avoids
            have first := ih (next (by rw [Content.part?, position]; rfl))
              (avoids.weaken fun id beyond => ⟨.first i, rfl, beyond⟩)
            have second : (Meetings.meetAll g fuel m entry.1).Avoids (g.Beyond (path ++ [.second i])) := by
              apply first.avoids (avoids.weaken fun id beyond => ⟨.second i, rfl, beyond⟩)
              intro id beyond otherBeyond
              exact Step.noConfusion (tree.step_eq beyond otherBeyond)
            apply (first.weaken fun id beyond => ⟨_, rfl, beyond⟩).trans
            exact (ih (next (by rw [Content.part?, position]; rfl)) second).weaken
              fun id beyond => ⟨_, rfl, beyond⟩
        | map fields =>
            apply tree.entries_meet found avoids
            intro i field m position avoids
            have key := meet_key_meets field.1 (avoids.weaken fun id beyond => ⟨.key i, rfl, beyond⟩)
              fun id numbered => next (by rw [Content.part?, position]; exact numbered)
            have value : (m.meetKey field.1).Avoids (g.Beyond (path ++ [.value i])) := by
              apply key.avoids (avoids.weaken fun id beyond => ⟨.value i, rfl, beyond⟩)
              intro id beyond otherBeyond
              exact Step.noConfusion (tree.step_eq beyond otherBeyond)
            apply (key.weaken fun id beyond => ⟨_, rfl, beyond⟩).trans
            exact (ih (next (by rw [Content.part?, position]; rfl)) value).weaken
              fun id beyond => ⟨_, rfl, beyond⟩

/-- No value of a document without repetitions is written under an anchor. -/
theorem IsTree.again_eq_nil (tree : g.IsTree) (fuel : Nat) :
    (Meetings.meetAll g fuel {} g.root).again = [] := by
  have start : ({} : Meetings).Avoids (g.Beyond []) := ⟨rfl, by simp⟩
  exact (tree.meet_all_meets fuel (place_root g) start).once

end Graph

end LaunchPolicy.Yaml
