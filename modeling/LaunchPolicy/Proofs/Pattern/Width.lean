import LaunchPolicy.Proofs.Pattern.Dotted

/-!
How little a pattern needs. Where a pattern accepts anything, it accepts a text no longer than its
width; and what is read from a text is less wide than the text is long, by one for each operator. So a
text with operators does not admit itself alone.
-/

namespace LaunchPolicy.Pattern

/-- The characters that the shortest match takes at most. -/
def width : Pattern → Nat
  | one _ => 1
  | both first second => first.width + second.width
  | either first second => max first.width second.width
  | repeated body least _ => least * body.width
  | _ => 0

/-- A pattern that looks at nothing but the ends of a text. -/
def Blunt : Pattern → Prop
  | boundary _ => False
  | both first second => first.Blunt ∧ second.Blunt
  | either first second => first.Blunt ∧ second.Blunt
  | repeated body _ _ => body.Blunt
  | _ => True

/-- What one relation matches has a short match of another in its place, wherever the ends of the text
are in sight that were in sight before. -/
def Shortens (long brief : List Char → List Char → List Char → Prop) (width : Nat) : Prop :=
  ∀ before matched after, long before matched after →
    ∃ short : List Char, short.length ≤ width ∧ (matched = [] → short = []) ∧
      ∀ front rest, (before = [] → front = []) → (after = [] → rest = []) → brief front short rest

section Shortens

variable {long brief next nextBrief : List Char → List Char → List Char → Prop}
  {width nextWidth : Nat}

theorem shortens_nothing {ends : List Char → List Char → Prop}
    (stay : ∀ before after front rest, (before = [] → front = []) → (after = [] → rest = []) →
      ends before after → ends front rest) :
    Shortens (fun before matched after => matched = [] ∧ ends before after)
      (fun before matched after => matched = [] ∧ ends before after) 0 := by
  intro before matched after found
  refine ⟨[], Nat.le_refl 0, fun _ => rfl, ?_⟩
  intro front rest fronts rests
  exact ⟨rfl, stay before after front rest fronts rests found.2⟩

theorem Shortens.mono (shortens : Shortens long brief width) (less : width ≤ nextWidth) :
    Shortens long brief nextWidth := by
  intro before matched after found
  obtain ⟨short, bound, others⟩ := shortens before matched after found
  exact ⟨short, Nat.le_trans bound less, others⟩

theorem Shortens.both (first : Shortens long brief width) (second : Shortens next nextBrief nextWidth) :
    Shortens
      (fun before matched after => ∃ left right, matched = left ++ right ∧
        long before left (right ++ after) ∧ next (before ++ left) right after)
      (fun before matched after => ∃ left right, matched = left ++ right ∧
        brief before left (right ++ after) ∧ nextBrief (before ++ left) right after)
      (width + nextWidth) := by
  rintro before - after ⟨left, right, rfl, here, there⟩
  obtain ⟨shortLeft, leftBound, leftEmpty, leftMatches⟩ := first _ _ _ here
  obtain ⟨shortRight, rightBound, rightEmpty, rightMatches⟩ := second _ _ _ there
  refine ⟨shortLeft ++ shortRight, ?_, ?_, ?_⟩
  · rw [List.length_append]
    omega
  · intro nothing
    obtain ⟨noLeft, noRight⟩ := List.append_eq_nil_iff.mp nothing
    rw [leftEmpty noLeft, rightEmpty noRight]
    rfl
  · intro front rest fronts rests
    refine ⟨shortLeft, shortRight, rfl, ?_, ?_⟩
    · apply leftMatches front (shortRight ++ rest) fronts
      intro nothing
      obtain ⟨noRight, noRest⟩ := List.append_eq_nil_iff.mp nothing
      rw [rightEmpty noRight, rests noRest]
      rfl
    · apply rightMatches (front ++ shortLeft) rest _ rests
      intro nothing
      obtain ⟨noFront, noLeft⟩ := List.append_eq_nil_iff.mp nothing
      rw [fronts noFront, leftEmpty noLeft]
      rfl

theorem Shortens.times (body : Shortens long brief width) {least count : Nat} (enough : least ≤ count) :
    Shortens (Times long count) (Times brief least) (least * width) := by
  induction least generalizing count with
  | zero =>
      -- rounds beyond those that are asked for are left out
      intro before matched after found
      exact ⟨[], Nat.zero_le _, fun _ => rfl, fun _ _ _ _ => rfl⟩
  | succ least ih =>
      cases count with
      | zero => contradiction
      | succ count =>
          rw [Nat.succ_mul, Nat.add_comm (least * width)]
          exact body.both (ih (Nat.le_of_succ_le_succ enough))

end Shortens

theorem matches_shortens {pattern : Pattern} (blunt : pattern.Blunt) :
    Shortens pattern.Matches pattern.Matches pattern.width := by
  induction pattern with
  | empty =>
      intro before matched after found
      exact ⟨[], Nat.le_refl 0, fun _ => rfl, fun _ _ _ _ => rfl⟩
  | one set =>
      rintro before - after ⟨c, rfl, member⟩
      exact ⟨[c], Nat.le_refl 1, id, fun _ _ _ _ => ⟨c, rfl, member⟩⟩
  | start => exact shortens_nothing fun _ _ _ _ fronts _ begins => fronts begins
  | stop => exact shortens_nothing fun _ _ _ _ _ rests ends => rests ends
  | boundary here => exact absurd blunt id
  | both first second firstShortens secondShortens =>
      exact (firstShortens blunt.1).both (secondShortens blunt.2)
  | either first second firstShortens secondShortens =>
      intro before matched after found
      rcases found with here | there
      · obtain ⟨short, bound, empty, others⟩ :=
          (firstShortens blunt.1).mono (Nat.le_max_left _ _) before matched after here
        exact ⟨short, bound, empty, fun front rest fronts rests => .inl (others front rest fronts rests)⟩
      · obtain ⟨short, bound, empty, others⟩ :=
          (secondShortens blunt.2).mono (Nat.le_max_right _ _) before matched after there
        exact ⟨short, bound, empty, fun front rest fronts rests => .inr (others front rest fronts rests)⟩
  | repeated body least most ih =>
      rintro before matched after ⟨count, enough, few, found⟩
      obtain ⟨short, bound, empty, others⟩ := (ih blunt).times enough before matched after found
      refine ⟨short, bound, empty, fun front rest fronts rests => ?_⟩
      exact ⟨least, Nat.le_refl least, fun most known => Nat.le_trans enough (few most known),
        others front rest fronts rests⟩

/-- What accepts a text accepts one that is no longer than its width. -/
theorem Accepts.short {pattern : Pattern} (blunt : pattern.Blunt) {text : List Char}
    (accepts : pattern.Accepts text) : ∃ short, pattern.Accepts short ∧ short.length ≤ pattern.width := by
  obtain ⟨before, matched, after, -, found⟩ := accepts
  obtain ⟨short, bound, -, others⟩ := matches_shortens blunt before matched after found
  exact ⟨short, ⟨[], short, [], by simp, others [] [] (fun _ => rfl) fun _ => rfl⟩, bound⟩

end LaunchPolicy.Pattern
