import LaunchPolicy.Proofs.Policy.Env
import Mathlib.Data.List.Induction

/-!
Merging environment rules, place by place. Overrides with a value leave every rule in its place:
the last rule of a name gives way to the last override of that name, and after all rules stand the
overrides of the names that no rule has.
-/

namespace LaunchPolicy.Env

/-- Rules in which the last of each name has given way to the last override of the name. -/
def replaced (rules overrides : List Text) : List Text :=
  match rules with
  | [] => []
  | rule :: rest =>
      (if name rule ∈ rest.map name then rule
        else (named overrides (name rule)).getLast?.getD rule) :: replaced rest overrides

/-- The overrides of names that no rule has. -/
def fresh (rules overrides : List Text) : List Text :=
  overrides.filter fun override => name override ∉ rules.map name

theorem replaced_nil (rules : List Text) : replaced rules [] = rules := by
  induction rules with
  | nil => rfl
  | cons rule rest ih =>
      rw [replaced, ih]
      simp [named]

theorem names_replaced (rules overrides : List Text) :
    (replaced rules overrides).map name = rules.map name := by
  induction rules with
  | nil => rfl
  | cons rule rest ih =>
      rw [replaced, List.map_cons, List.map_cons, ih]
      congr 1
      split
      · rfl
      · cases last : (named overrides (name rule)).getLast? with
        | none => rfl
        | some override => exact (mem_named_iff.mp (List.mem_of_getLast? last)).2

/-- Rules behind others have their own places where they share no name with them. -/
theorem replaced_append {front back : List Text} (overrides : List Text)
    (apart : ∀ rule ∈ front, name rule ∉ back.map name) :
    replaced (front ++ back) overrides = replaced front overrides ++ replaced back overrides := by
  induction front with
  | nil => rfl
  | cons rule front ih =>
      obtain ⟨here, apart⟩ := List.forall_mem_cons.mp apart
      rw [List.cons_append, replaced, replaced, ih apart, List.cons_append, List.map_append]
      simp only [List.mem_append, here, or_false]

theorem length_replaced (rules overrides : List Text) :
    (replaced rules overrides).length = rules.length := by
  have lengths := congrArg List.length (names_replaced rules overrides)
  rwa [List.length_map, List.length_map] at lengths

/-- One more override goes to the last place of its name. -/
theorem replaced_concat (rules overrides : List Text) (override : Text) :
    replaced rules (overrides ++ [override]) =
      match lastPosition? rules (name override) with
      | some position => (replaced rules overrides).set position override
      | none => replaced rules overrides := by
  induction rules with
  | nil => rfl
  | cons rule rest ih =>
      have later := last_position_eq_none_iff rest (name override)
      rw [replaced, replaced, ih, lastPosition?, named_append, named_cons]
      cases found : lastPosition? rest (name override) with
      | some position =>
          have known : name override ∈ rest.map name := by
            by_contra unknown
            rw [later.mpr unknown] at found
            contradiction
          by_cases same : name rule = name override
          · simp [same, known]
          · simp [Ne.symm same, named]
      | none =>
          have unknown := later.mp found
          by_cases same : name rule = name override
          · simp [same, unknown, named]
          · simp [same, Ne.symm same, named]

theorem fresh_concat (rules overrides : List Text) (override : Text) :
    fresh rules (overrides ++ [override]) =
      if name override ∈ rules.map name then fresh rules overrides
      else fresh rules overrides ++ [override] := by
  rw [fresh, List.filter_append]
  split
  · rename_i known
    rw [List.filter_cons_of_neg (by simpa using known), List.filter_nil, List.append_nil]
    rfl
  · rename_i unknown
    rw [List.filter_cons_of_pos (by simpa using unknown), List.filter_nil]
    rfl

/-- The invariant of the substitutions: the places of the rules, then the overrides that were
appended so far. -/
theorem fold_substitute_eq (rules overrides : List Text) :
    overrides.foldl (substitute rules) rules =
      replaced rules overrides ++ fresh rules overrides := by
  -- on the last override: the places are those in the rules before the merge, and stay within them
  induction overrides using List.reverseRecOn with
  | nil => simp [replaced_nil, fresh]
  | append_singleton overrides override ih =>
      have known := last_position_eq_none_iff rules (name override)
      rw [List.foldl_append, List.foldl_cons, List.foldl_nil, ih, replaced_concat, fresh_concat,
        substitute]
      cases found : lastPosition? rules (name override) with
      | none =>
          rw [if_neg (known.mp found), List.append_assoc]
      | some position =>
          have member : name override ∈ rules.map name := by
            by_contra unknown
            rw [known.mpr unknown] at found
            contradiction
          obtain ⟨front, rule, back, rfl, rfl, -, -⟩ := last_position_split found
          have inside : front.length < (replaced (front ++ rule :: back) overrides).length := by
            rw [length_replaced, List.length_append, List.length_cons]
            omega
          rw [if_pos member]
          exact List.set_append_left front.length override inside

/-- Removal requests for names that no rule has may as well be left out. -/
theorem merge_unknown {rules overrides : List Text}
    (unknown : ∀ wanted ∈ overrides, hasValue wanted = false → wanted ∉ rules.map name) :
    merge rules overrides =
      replaced rules (overrides.filter hasValue) ++ fresh rules (overrides.filter hasValue) := by
  rw [merge, fold_remove_unknown, fold_substitute_eq]
  intro wanted member
  obtain ⟨listed, valueless⟩ := List.mem_filter.mp member
  exact unknown wanted listed (by simpa using valueless)

theorem valued_of_filter (overrides : List Text) :
    ∀ rule ∈ overrides.filter hasValue, hasValue rule = true :=
  fun _ member => (List.mem_filter.mp member).2

theorem merge_valued (rules : List Text) {overrides : List Text}
    (valued : ∀ rule ∈ overrides, hasValue rule = true) :
    merge rules overrides = replaced rules overrides ++ fresh rules overrides := by
  have unknown : ∀ wanted ∈ overrides, hasValue wanted = false → wanted ∉ rules.map name := by
    intro wanted member valueless
    rw [valued wanted member] at valueless
    contradiction
  rw [merge_unknown unknown, List.filter_eq_self.mpr valued]

theorem names_merge (rules : List Text) {overrides : List Text}
    (valued : ∀ rule ∈ overrides, hasValue rule = true) :
    (merge rules overrides).map name = rules.map name ++ (fresh rules overrides).map name := by
  rw [merge_valued rules valued, List.map_append, names_replaced]

/-- What a place holds after the overrides: its rule if the name comes again, else the last
override of the name if there is one. -/
theorem replaced_at {rules : List Text} (overrides : List Text) {place : Nat} {rule : Text}
    (there : rules[place]? = some rule) :
    (replaced rules overrides)[place]? =
      some (if name rule ∈ (rules.drop (place + 1)).map name then rule
        else (named overrides (name rule)).getLast?.getD rule) := by
  induction rules generalizing place with
  | nil => simp at there
  | cons first rest ih =>
      rw [replaced]
      cases place with
      | zero =>
          obtain rfl : first = rule := by simpa using there
          rfl
      | succ place =>
          rw [List.getElem?_cons_succ] at there
          rw [List.getElem?_cons_succ, List.drop_succ_cons]
          exact ih there

/-- Rules stay as they are when the last of each name is the last override of the name already. -/
theorem replaced_eq_self {rules overrides : List Text}
    (settled : ∀ n ∈ rules.map name, ∀ rule, (named overrides n).getLast? = some rule →
      (named rules n).getLast? = some rule) : replaced rules overrides = rules := by
  induction rules with
  | nil => rfl
  | cons rule rest ih =>
      have others : replaced rest overrides = rest := by
        apply ih
        intro n member override last
        have here := settled n (List.mem_cons_of_mem _ member) override last
        have filled : named rest n ≠ [] := fun empty => (named_eq_nil_iff rest n).mp empty member
        rw [named_cons] at here
        split at here
        · rw [List.getLast?_cons_of_ne_nil filled] at here
          exact here
        · exact here
      rw [replaced, others]
      congr 1
      split
      · rfl
      · rename_i new
        cases last : (named overrides (name rule)).getLast? with
        | none => rfl
        | some override =>
            have here := settled (name rule) List.mem_cons_self override last
            rw [named_cons, if_pos rfl, (named_eq_nil_iff rest _).mpr new] at here
            exact (Option.some.inj here).symm

theorem last_supersede (old new : List Text) :
    (supersede old new).getLast? = new.getLast?.or old.getLast? := by
  rw [supersede]
  split
  · rename_i empty
    simp [empty]
  · split
    · rename_i none
      simp [none]
    · rename_i rule some
      simp [some]

theorem merge_again {rules overrides : List Text}
    (valued : ∀ rule ∈ overrides, hasValue rule = true) :
    merge (merge rules overrides) overrides = merge rules overrides := by
  have settled : replaced (merge rules overrides) overrides = merge rules overrides := by
    apply replaced_eq_self
    intro n _ rule last
    rw [named_merge_valued rules valued, last_supersede, last]
    rfl
  have known : fresh (merge rules overrides) overrides = [] := by
    rw [fresh, List.filter_eq_nil_iff]
    intro override member
    rw [decide_eq_true_eq, not_not, names_merge rules valued]
    by_cases old : name override ∈ rules.map name
    · exact List.mem_append_left _ old
    · have new : override ∈ fresh rules overrides := List.mem_filter.mpr ⟨member, by simpa using old⟩
      exact List.mem_append_right _ (List.mem_map_of_mem new)
  rw [merge_valued _ valued, settled, known, List.append_nil]

/-- Overrides with a value, place by place: every rule is where it was, the last of a name with the
last override of that name, and the overrides of new names follow in their order. The same overrides
find nothing more to change. -/
theorem valued_overrides_in_place (rules : List Text) {overrides : List Text}
    (valued : ∀ rule ∈ overrides, hasValue rule = true) :
    (merge rules overrides).length = rules.length + (fresh rules overrides).length ∧
      (∀ place rule, rules[place]? = some rule →
        (merge rules overrides)[place]? =
          some (if name rule ∈ (rules.drop (place + 1)).map name then rule
            else (named overrides (name rule)).getLast?.getD rule)) ∧
      (merge rules overrides).drop rules.length = fresh rules overrides ∧
      merge (merge rules overrides) overrides = merge rules overrides := by
  have whole := merge_valued rules valued
  have length := length_replaced rules overrides
  refine ⟨?_, ?_, ?_, merge_again valued⟩
  · rw [whole, List.length_append, length]
  · intro place rule there
    have inside : place < (replaced rules overrides).length := by
      rw [length]
      exact (List.getElem?_eq_some_iff.mp there).1
    rw [whole, List.getElem?_append_left inside]
    exact replaced_at overrides there
  · rw [whole, ← length, List.drop_left]

/-- Names that come twice on both sides: the first `A` stays, both new rules of `C` are kept. -/
theorem doubled_names_in_place :
    (∀ rule ∈ (["A=3", "C=1", "C=2", "A=4"] : List Text), hasValue rule = true) ∧
      (merge ["A=1", "B=1", "A=2"] ["A=3", "C=1", "C=2", "A=4"])[2]? = some ("A=4" : Text) ∧
      (merge ["A=1", "B=1", "A=2"] ["A=3", "C=1", "C=2", "A=4"]).drop 3 =
        (["C=1", "C=2"] : List Text) ∧
      merge (merge ["A=1", "B=1", "A=2"] ["A=3", "C=1", "C=2", "A=4"]) ["A=3", "C=1", "C=2", "A=4"] =
        merge ["A=1", "B=1", "A=2"] ["A=3", "C=1", "C=2", "A=4"] := by
  have valued : ∀ rule ∈ (["A=3", "C=1", "C=2", "A=4"] : List Text), hasValue rule = true := by decide
  obtain ⟨-, places, appended, again⟩ :=
    valued_overrides_in_place ["A=1", "B=1", "A=2"] valued
  have third := places 2 "A=2" rfl
  exact ⟨valued, third.trans (by decide), appended.trans (by decide), again⟩

end LaunchPolicy.Env
