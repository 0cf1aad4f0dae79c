import LaunchPolicy.Proofs.Policy.Env
import Mathlib.Data.List.Basic

/-!
Variables and the two spellings of their rules. A literal `NAME=value` has the variable for its
name, a pattern `^NAME=value$` the variable after the anchor; merging compares names only, so
rules of one variable in different spellings do not meet.
-/

namespace LaunchPolicy.Env

/-- A name that a variable can have: without an equals sign and without an anchor before it. -/
def IsVariable (n : Text) : Prop := .char '=' ∉ n.points ∧ n.points.head? ≠ some (.char '^')

instance (n : Text) : Decidable (IsVariable n) := inferInstanceAs (Decidable (_ ∧ _))

/-- The name of the patterns of a variable. -/
def anchored (n : Text) : Text := "^" ++ n

/-- The rules of a variable in either spelling. -/
def rulesOf (rules : List Text) (n : Text) : List Text :=
  rules.filter fun rule => name rule = n ∨ name rule = anchored n

private theorem take_while_plain {cs rest : List Point} (plain : .char '=' ∉ cs) :
    (cs ++ .char '=' :: rest).takeWhile (· ≠ .char '=') = cs := by
  rw [List.takeWhile_append_of_pos, List.takeWhile_cons_of_neg (by simp), List.append_nil]
  exact fun c member => by simpa using fun same : c = .char '=' => plain (same ▸ member)

theorem name_of_chars {rule : Text} {cs rest : List Point} (plain : .char '=' ∉ cs)
    (chars : rule.points = cs ++ .char '=' :: rest) : name rule = Text.ofPoints cs := by
  rw [name, chars, take_while_plain plain]

theorem name_literal {n : Text} (plain : .char '=' ∉ n.points) (value : Text) :
    name (n ++ "=" ++ value) = n := by
  have chars : (n ++ "=" ++ value).points = n.points ++ .char '=' :: value.points := by
    simp [Text.points_append]
  rw [name_of_chars plain chars, Text.of_points_points]

theorem has_value_literal (n value : Text) : hasValue (n ++ "=" ++ value) = true := by
  simp [hasValue, Text.points_append]

/-- The name of a rule with a value is what stands before its first equals sign. -/
theorem has_value_split {rule : Text} (valued : hasValue rule = true) :
    ∃ rest, rule.points = (name rule).points ++ .char '=' :: rest ∧ .char '=' ∉ (name rule).points := by
  rw [name, Text.points_of_points]
  suffices general : ∀ cs : List Point, .char '=' ∈ cs →
      ∃ rest, cs = cs.takeWhile (· ≠ .char '=') ++ .char '=' :: rest ∧ .char '=' ∉ cs.takeWhile (· ≠ .char '=') from
    general rule.points (by simpa [hasValue] using valued)
  intro cs valued
  induction cs with
  | nil => simp at valued
  | cons c cs ih =>
      by_cases same : c = .char '='
      · exact ⟨cs, by simp [same], by simp [same]⟩
      · obtain ⟨rest, split, plain⟩ := ih ((List.mem_cons.mp valued).resolve_left (Ne.symm same))
        refine ⟨rest, ?_, ?_⟩
        · rw [List.takeWhile_cons_of_pos (by simpa using same), List.cons_append, ← split]
        · rw [List.takeWhile_cons_of_pos (by simpa using same), List.mem_cons, not_or]
          exact ⟨Ne.symm same, plain⟩

theorem has_value_between (entry : Text) :
    hasValue ("^" ++ entry ++ "$") = hasValue entry := by
  simp [hasValue, Text.points_append]

theorem name_between {entry : Text} (valued : hasValue entry = true) :
    name ("^" ++ entry ++ "$") = anchored (name entry) := by
  obtain ⟨rest, split, plain⟩ := has_value_split valued
  have anchoredPlain : .char '=' ∉ .char '^' :: (name entry).points := by simpa using plain
  have chars : ("^" ++ entry ++ "$").points =
      (.char '^' :: (name entry).points) ++ .char '=' :: (rest ++ [.char '$']) := by
    simp [Text.points_append, split]
  rw [name_of_chars anchoredPlain chars, ← Text.points_inj]
  simp [anchored, Text.points_append]

theorem ne_anchored (n : Text) : n ≠ anchored n := by
  intro same
  have lengths := congrArg (fun s : Text => s.points.length) same
  simp [anchored, Text.points_append] at lengths

theorem IsVariable.ne_anchored {n : Text} (variable_ : IsVariable n) (other : Text) :
    n ≠ anchored other := by
  rintro rfl
  exact variable_.2 (by simp [anchored, Text.points_append])

theorem length_rules_of (rules : List Text) (n : Text) :
    (rulesOf rules n).length = (named rules n).length + (named rules (anchored n)).length := by
  induction rules with
  | nil => rfl
  | cons rule rules ih =>
      rw [named_cons, named_cons]
      have apart := ne_anchored n
      by_cases literal : name rule = n
      · simp [rulesOf, literal, apart] at ih ⊢
        omega
      · by_cases pattern : name rule = anchored n
        · simp [rulesOf, pattern, Ne.symm apart] at ih ⊢
          omega
        · simpa [rulesOf, literal, pattern] using ih

theorem rules_of_literal {rules : List Text} {n : Text}
    (noPattern : named rules (anchored n) = []) : rulesOf rules n = named rules n := by
  apply List.filter_congr
  intro rule member
  have other : name rule ≠ anchored n := fun same =>
    (named_eq_nil_iff rules _).mp noPattern (same ▸ List.mem_map_of_mem member)
  simp [other]

theorem rules_of_pattern {rules : List Text} {n : Text} (noLiteral : named rules n = []) :
    rulesOf rules n = named rules (anchored n) := by
  apply List.filter_congr
  intro rule member
  have other : name rule ≠ n := fun same =>
    (named_eq_nil_iff rules _).mp noLiteral (same ▸ List.mem_map_of_mem member)
  simp [other]

/-- The rule of the last of several sources that has one for a variable. -/
def foremost? (sources : List (List Text)) (n : Text) : Option Text :=
  sources.foldl (fun found source => (rulesOf source n).getLast?.or found) none

section

variable {sources : List (List Text)} {final : List Text} {n : Text}

theorem merged_ne_nil_iff
    (merged : ∀ wanted, named final wanted = (sources.map (named · wanted)).foldl supersede [])
    (wanted : Text) : named final wanted ≠ [] ↔ ∃ source ∈ sources, named source wanted ≠ [] := by
  rw [merged, ne_eq, fold_supersede_eq_nil_iff]
  simp

/-- Where one spelling of a variable is absent, its sources are merged in the other. -/
theorem merged_eq_foremost {wanted : Text} (spelled : wanted = n ∨ wanted = anchored n)
    (merged : ∀ wanted, named final wanted = (sources.map (named · wanted)).foldl supersede [])
    (once : ∀ source ∈ sources, (rulesOf source n).length ≤ 1)
    (alike : ∀ source ∈ sources, rulesOf source n = named source wanted) :
    named final wanted = (foremost? sources n).toList := by
  have single : ∀ rules ∈ sources.map (named · wanted), rules.length ≤ 1 := by
    intro rules member
    obtain ⟨source, within, rfl⟩ := List.mem_map.mp member
    have bound := once source within
    rw [length_rules_of] at bound
    rcases spelled with rfl | rfl <;> omega
  rw [merged, fold_supersede_single single, List.foldl_map, foremost?]
  congr 1
  exact List.foldl_ext _ _ _ fun found source member => by rw [alike source member]

/-- Sources with one rule at most for a variable, merged name by name: the rule of the foremost
source is the only one just when no two sources spell the variable differently. -/
theorem sole_rule_iff
    (merged : ∀ wanted, named final wanted = (sources.map (named · wanted)).foldl supersede [])
    (once : ∀ source ∈ sources, (rulesOf source n).length ≤ 1) :
    rulesOf final n = (foremost? sources n).toList ↔
      ¬ ((∃ source ∈ sources, named source n ≠ []) ∧
        ∃ source ∈ sources, named source (anchored n) ≠ []) := by
  constructor
  · rintro sole ⟨literal, pattern⟩
    have bound := length_rules_of final n
    rw [sole] at bound
    have first := List.length_pos_iff.mpr ((merged_ne_nil_iff merged n).mpr literal)
    have second := List.length_pos_iff.mpr ((merged_ne_nil_iff merged (anchored n)).mpr pattern)
    have small : (foremost? sources n).toList.length ≤ 1 := by
      cases foremost? sources n <;> simp
    omega
  · intro apart
    by_cases literal : ∃ source ∈ sources, named source n ≠ []
    · have noPattern : ∀ source ∈ sources, named source (anchored n) = [] := fun source member =>
        Decidable.of_not_not fun some => apart ⟨literal, source, member, some⟩
      have finalPattern : named final (anchored n) = [] := Decidable.of_not_not fun some => by
        obtain ⟨source, member, other⟩ := (merged_ne_nil_iff merged _).mp some
        exact other (noPattern source member)
      rw [rules_of_literal finalPattern]
      exact merged_eq_foremost (.inl rfl) merged once fun source member =>
        rules_of_literal (noPattern source member)
    · have noLiteral : ∀ source ∈ sources, named source n = [] := fun source member =>
        Decidable.of_not_not fun some => literal ⟨source, member, some⟩
      have finalLiteral : named final n = [] := Decidable.of_not_not fun some =>
        literal ((merged_ne_nil_iff merged n).mp some)
      rw [rules_of_pattern finalLiteral]
      exact merged_eq_foremost (.inr rfl) merged once fun source member =>
        rules_of_pattern (noLiteral source member)

end

end LaunchPolicy.Env
