import LaunchPolicy.Proofs.Keyed
import LaunchPolicy.Proofs.Policy.Substitution

/-!
Environment rules of several sources, merged one after the other. Where no source has two rules of
one name, every name is kept once: where the first source has it, with the rule of the last.
-/

namespace LaunchPolicy.Env

theorem mem_replaced {rules overrides : List Text} {rule : Text}
    (member : rule ∈ replaced rules overrides) : rule ∈ rules ∨ rule ∈ overrides := by
  induction rules with
  | nil => contradiction
  | cons first rest ih =>
      rw [replaced] at member
      rcases List.mem_cons.mp member with here | there
      · rw [here]
        split
        · exact .inl List.mem_cons_self
        · cases last : (named overrides (name first)).getLast? with
          | none => exact .inl List.mem_cons_self
          | some override => exact .inr (mem_named_iff.mp (List.mem_of_getLast? last)).1
      · exact (ih there).imp_left (List.mem_cons_of_mem first)

theorem mem_merge {rules overrides : List Text}
    (valued : ∀ rule ∈ overrides, hasValue rule = true) {rule : Text}
    (member : rule ∈ merge rules overrides) : rule ∈ rules ∨ rule ∈ overrides := by
  rw [merge_valued rules valued] at member
  rcases List.mem_append.mp member with old | new
  · exact mem_replaced old
  · exact .inr (List.mem_filter.mp new).1

/-- Overrides of names that no rule has go after all rules. -/
theorem merge_apart {rules overrides : List Text}
    (valued : ∀ rule ∈ overrides, hasValue rule = true)
    (apart : ∀ override ∈ overrides, name override ∉ rules.map name) :
    merge rules overrides = rules ++ overrides := by
  have kept : replaced rules overrides = rules := by
    apply replaced_eq_self
    intro n member override last
    obtain ⟨listed, rfl⟩ := mem_named_iff.mp (List.mem_of_getLast? last)
    exact absurd member (apart override listed)
  have added : fresh rules overrides = overrides := by
    apply List.filter_eq_self.mpr
    intro override member
    simpa using apart override member
  rw [merge_valued rules valued, kept, added]

/-- What is kept of all rules so far is kept of them and the overrides of one more source. -/
theorem keeps_merge {kept all overrides : List Text} (keeps : Keyed.Keeps name kept all)
    (valued : ∀ rule ∈ overrides, hasValue rule = true) (distinct : (overrides.map name).Nodup) :
    Keyed.Keeps name (merge kept overrides) (all ++ overrides) := by
  constructor
  · have known : ∀ n, n ∈ kept.map name ↔ n ∈ all.map name := by
      intro n
      rw [keeps.keys, List.mem_eraseDups]
    have new : (overrides.map name).removeAll (all.map name) = (fresh kept overrides).map name := by
      rw [List.removeAll, List.filter_map, fresh]
      congr 1
      apply List.filter_congr
      intro override _
      simp only [Function.comp_apply, List.elem_eq_mem, known, decide_not]
    have newDistinct : ((fresh kept overrides).map name).Nodup :=
      distinct.sublist (List.Sublist.map name List.filter_sublist)
    rw [names_merge kept valued, List.map_append, List.eraseDups_append, new, keeps.keys,
      Keyed.erase_dups_of_nodup newDistinct]
  · intro n
    have merged : Keyed.last? name (merge kept overrides) n =
        (Keyed.last? name overrides n).or (Keyed.last? name kept n) := by
      rw [Keyed.last?, ← named, named_merge_valued kept valued, last_supersede]
      rfl
    rw [merged, Keyed.last_append, keeps.last]

/-- The sources of rules, lowest first, of which a list keeps each name once: where it came first,
with the only rule of the last source that has it. -/
structure Layered (rules : List Text) (sources : List (List Text)) : Prop where
  distinct : (rules.map name).Nodup
  order : rules.map name = (sources.flatten.map name).eraseDups
  foremost : ∀ rule ∈ rules, ∃ lower source higher, sources = lower ++ source :: higher ∧
    named source (name rule) = [rule] ∧ ∀ later ∈ higher, name rule ∉ later.map name

/-- The last rule of a name comes from the last source that has the name. -/
theorem last_of_sources {sources : List (List Text)} {n rule : Text}
    (last : Keyed.last? name sources.flatten n = some rule) :
    ∃ lower source higher, sources = lower ++ source :: higher ∧
      Keyed.last? name source n = some rule ∧ ∀ later ∈ higher, n ∉ later.map name := by
  induction sources with
  | nil => contradiction
  | cons first sources ih =>
      rw [List.flatten_cons, Keyed.last_append] at last
      cases later : Keyed.last? name sources.flatten n with
      | some other =>
          rw [later, Option.some_or] at last
          obtain ⟨lower, source, higher, parts, here, above⟩ := ih (later.trans last)
          exact ⟨first :: lower, source, higher, by rw [parts]; rfl, here, above⟩
      | none =>
          rw [later, Option.none_or] at last
          refine ⟨[], first, sources, rfl, last, ?_⟩
          intro source member inside
          apply (Keyed.last_eq_none_iff name _ n).mp later
          obtain ⟨rule, listed, rfl⟩ := List.mem_map.mp inside
          exact List.mem_map_of_mem (List.mem_flatten.mpr ⟨source, member, listed⟩)

theorem layered_of_keeps {rules : List Text} {sources : List (List Text)}
    (keeps : Keyed.Keeps name rules sources.flatten)
    (distinct : ∀ source ∈ sources, (source.map name).Nodup) : Layered rules sources where
  distinct := keeps.distinct
  order := keeps.keys
  foremost := by
    intro rule member
    have last := (keeps.mem_iff rule).mp member
    obtain ⟨lower, source, higher, rfl, here, above⟩ := last_of_sources last
    refine ⟨lower, source, higher, rfl, ?_, above⟩
    exact Keyed.filter_of_last name (distinct source (by simp)) here

/-! All names but one -/

/-- The rules of all names but one. -/
def others (rules : List Text) (n : Text) : List Text := rules.filter fun rule => name rule ≠ n

theorem named_others {rules : List Text} {n m : Text} (different : m ≠ n) :
    named (others rules n) m = named rules m := by
  rw [named, others, List.filter_filter]
  apply List.filter_congr
  intro rule _
  by_cases same : name rule = m <;> simp [same, different]

theorem mem_names_others_iff {rules : List Text} {n m : Text} (different : m ≠ n) :
    m ∈ (others rules n).map name ↔ m ∈ rules.map name := by
  rw [← not_iff_not, ← named_eq_nil_iff, ← named_eq_nil_iff, named_others different]

theorem others_replaced (rules overrides : List Text) (n : Text) :
    others (replaced rules overrides) n = replaced (others rules n) (others overrides n) := by
  induction rules with
  | nil => rfl
  | cons rule rest ih =>
      have head := (List.cons.inj (names_replaced (rule :: rest) overrides)).1
      by_cases same : name rule = n
      · have gone : others (rule :: rest) n = others rest n := List.filter_cons_of_neg (by simp [same])
        rw [gone, ← ih]
        exact List.filter_cons_of_neg (by rw [head]; simp [same])
      · have kept : others (rule :: rest) n = rule :: others rest n :=
          List.filter_cons_of_pos (by simp [same])
        rw [kept, replaced, replaced, named_others same, ← ih]
        simp only [mem_names_others_iff same]
        exact List.filter_cons_of_pos (by rw [head]; simp [same])

theorem others_fresh (rules overrides : List Text) (n : Text) :
    others (fresh rules overrides) n = fresh (others rules n) (others overrides n) := by
  rw [others, fresh, fresh, show others overrides n = overrides.filter fun rule => name rule ≠ n from rfl,
    List.filter_filter, List.filter_filter]
  apply List.filter_congr
  intro rule _
  by_cases same : name rule = n
  · simp [same]
  · simp only [mem_names_others_iff same, Bool.and_comm]

theorem others_merge (rules : List Text) {overrides : List Text}
    (valued : ∀ rule ∈ overrides, hasValue rule = true) (n : Text) :
    others (merge rules overrides) n = merge (others rules n) (others overrides n) := by
  have otherValued : ∀ rule ∈ others overrides n, hasValue rule = true := fun rule member =>
    valued rule (List.mem_filter.mp member).1
  rw [merge_valued rules valued, merge_valued _ otherValued, ← others_replaced, ← others_fresh, others,
    List.filter_append]
  rfl

end LaunchPolicy.Env
