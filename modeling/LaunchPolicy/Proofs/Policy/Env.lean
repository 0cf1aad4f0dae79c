import LaunchPolicy.Policy.Env

/-!
Merging environment rules, name by name. Overrides with a value leave every other name alone;
of the rules of their own name they replace the last by the last of the overrides, or go after
all rules where there is none of that name.
-/

namespace LaunchPolicy.Env

/-- The rules of a name in their order. -/
def named (rules : List Text) (wanted : Text) : List Text :=
  rules.filter fun rule => name rule = wanted

theorem named_append (rules more : List Text) (wanted : Text) :
    named (rules ++ more) wanted = named rules wanted ++ named more wanted := by
  rw [named, List.filter_append]
  rfl

theorem named_cons (rule : Text) (rules : List Text) (wanted : Text) :
    named (rule :: rules) wanted =
      if name rule = wanted then rule :: named rules wanted else named rules wanted := by
  by_cases same : name rule = wanted <;> simp [named, same]

theorem named_eq_nil_iff (rules : List Text) (wanted : Text) :
    named rules wanted = [] ↔ wanted ∉ rules.map name := by
  simp [named, List.filter_eq_nil_iff]

theorem mem_named_iff {rules : List Text} {wanted rule : Text} :
    rule ∈ named rules wanted ↔ rule ∈ rules ∧ name rule = wanted := by
  simp [named, List.mem_filter]

theorem last_position_eq_none_iff (rules : List Text) (wanted : Text) :
    lastPosition? rules wanted = none ↔ wanted ∉ rules.map name := by
  induction rules with
  | nil => simp [lastPosition?]
  | cons rule rules ih =>
      rw [lastPosition?, List.map_cons, List.mem_cons, not_or]
      split
      · rename_i position found
        rw [found] at ih
        simpa using fun _ => ih
      · rename_i found
        rw [found] at ih
        have later : wanted ∉ rules.map name := ih.mp rfl
        by_cases same : name rule = wanted
        · simp [same]
        · simpa [same, Ne.symm same] using later

/-- At the last position of a name stands a rule of that name, with none after it. -/
theorem last_position_split {rules : List Text} {wanted : Text} {position : Nat}
    (found : lastPosition? rules wanted = some position) :
    ∃ front rule back, rules = front ++ rule :: back ∧ front.length = position ∧
      name rule = wanted ∧ wanted ∉ back.map name := by
  induction rules generalizing position with
  | nil => exact absurd found (by simp [lastPosition?])
  | cons rule rules ih =>
      rw [lastPosition?] at found
      split at found
      · rename_i later inside
        obtain ⟨front, last, back, rfl, rfl, same, final⟩ := ih inside
        obtain rfl := Option.some.inj found
        exact ⟨rule :: front, last, back, rfl, rfl, same, final⟩
      · rename_i none
        split at found
        · rename_i same
          obtain rfl := Option.some.inj found
          exact ⟨[], rule, rules, rfl, rfl, same, (last_position_eq_none_iff rules wanted).mp none⟩
        · exact absurd found (by simp)

/-- Rules that have come out of an index by substitutions: they have its names at its places,
and after them only names that it does not have. -/
def Follows (index rules : List Text) : Prop :=
  ∃ added, rules.map name = index.map name ++ added ∧ ∀ n ∈ added, n ∉ index.map name

theorem follows_self (index : List Text) : Follows index index := ⟨[], by simp, by simp⟩

/-- A substitution appends a rule of a new name, or replaces the last rule of a known one. -/
theorem substitute_cases {index rules : List Text} (follows : Follows index rules)
    (override : Text) :
    (name override ∉ index.map name ∧ substitute index rules override = rules ++ [override]) ∨
      ∃ front rule back, name override ∈ index.map name ∧ rules = front ++ rule :: back ∧
        name rule = name override ∧ name override ∉ back.map name ∧
        substitute index rules override = front ++ override :: back := by
  obtain ⟨added, names, fresh⟩ := follows
  cases found : lastPosition? index (name override) with
  | none =>
      refine .inl ⟨(last_position_eq_none_iff index _).mp found, ?_⟩
      rw [substitute, found]
  | some position =>
      obtain ⟨before, known, after, rfl, rfl, same, final⟩ := last_position_split found
      rw [List.map_append, List.map_cons, List.append_assoc, List.map_eq_append_iff] at names
      obtain ⟨front, rest, rfl, sameFront, names⟩ := names
      rw [List.cons_append, List.map_eq_cons_iff] at names
      obtain ⟨rule, back, rfl, sameRule, sameBack⟩ := names
      have member : name override ∈ (before ++ known :: after).map name := by simp [same]
      refine .inr ⟨front, rule, back, member, rfl, sameRule.trans same, ?_, ?_⟩
      · rw [sameBack, List.mem_append]
        exact fun inside => inside.elim final fun new => fresh _ new member
      · have place : before.length = front.length := by
          simpa using (congrArg List.length sameFront).symm
        rw [substitute, found]
        simp [place]

theorem substitute_follows {index rules : List Text} (follows : Follows index rules)
    (override : Text) : Follows index (substitute index rules override) := by
  obtain ⟨added, names, fresh⟩ := follows
  rcases substitute_cases ⟨added, names, fresh⟩ override with
    ⟨new, result⟩ | ⟨front, rule, back, -, rfl, same, -, result⟩
  · refine ⟨added ++ [name override], by simp [result, names], fun n member => ?_⟩
    rcases List.mem_append.mp member with member | member
    · exact fresh n member
    · rwa [List.mem_singleton.mp member]
  · exact ⟨added, by simpa [result, same] using names, fresh⟩

/-- What a substitution does to the rules of each name. -/
theorem named_substitute {index rules : List Text} (follows : Follows index rules)
    (override wanted : Text) :
    named (substitute index rules override) wanted =
      if name override = wanted then
        if wanted ∈ index.map name then (named rules wanted).dropLast ++ [override]
        else named rules wanted ++ [override]
      else named rules wanted := by
  rcases substitute_cases follows override with
    ⟨new, result⟩ | ⟨front, rule, back, known, rfl, same, final, result⟩
  · rw [result, named_append, named_cons]
    split
    · rename_i this
      rw [if_neg (this ▸ new)]
      rfl
    · simp [named]
  · rw [result, named_append, named_append, named_cons, named_cons, same]
    split
    · rename_i this
      rw [if_pos (this ▸ known), (named_eq_nil_iff back wanted).mpr (this ▸ final),
        List.dropLast_concat]
    · rfl

/-- Rules of one name after others of that name: they replace the last of those by their own
last, and stay as they are where there are no others. -/
def supersede (old new : List Text) : List Text :=
  if old = [] then new else
    match new.getLast? with
    | none => old
    | some rule => old.dropLast ++ [rule]

theorem supersede_nil (old : List Text) : supersede old [] = old := by
  rw [supersede]
  split
  · rename_i empty
    exact empty.symm
  · rfl

theorem supersede_nil_left (new : List Text) : supersede [] new = new := if_pos rfl

theorem named_fold_substitute {index : List Text} (overrides : List Text) (wanted : Text) :
    named (overrides.foldl (substitute index) index) wanted =
      supersede (named index wanted) (named overrides wanted) := by
  suffices general : ∀ rules, Follows index rules →
      named (overrides.foldl (substitute index) rules) wanted =
        if wanted ∈ index.map name then
          match (named overrides wanted).getLast? with
          | none => named rules wanted
          | some rule => (named rules wanted).dropLast ++ [rule]
        else named rules wanted ++ named overrides wanted by
    rw [general index (follows_self index), supersede]
    have empty := named_eq_nil_iff index wanted
    by_cases known : wanted ∈ index.map name
    · rw [if_pos known, if_neg (fun nil => empty.mp nil known)]
    · rw [if_neg known, empty.mpr known, if_pos rfl, List.nil_append]
  induction overrides with
  | nil =>
      intro rules follows
      simp [named]
  | cons override overrides ih =>
      intro rules follows
      rw [List.foldl_cons, ih _ (substitute_follows follows override),
        named_substitute follows override wanted, named_cons]
      by_cases same : name override = wanted
      · by_cases known : wanted ∈ index.map name
        · simp only [same, known, if_true, List.getLast?_cons]
          cases (named overrides wanted).getLast? with
          | none => simp
          | some rule => simp
        · simp [same, known]
      · simp only [same, if_false]

theorem fold_remove_unknown {index : List Text} {removals : List Text}
    (unknown : ∀ wanted ∈ removals, wanted ∉ index.map name) (rules : List Text) :
    removals.foldl (remove index) rules = rules := by
  induction removals with
  | nil => rfl
  | cons wanted removals ih =>
      obtain ⟨first, unknown⟩ := List.forall_mem_cons.mp unknown
      rw [List.foldl_cons, remove, (last_position_eq_none_iff index wanted).mpr first]
      exact ih unknown

/-- A merge in which no removal finds a rule, name by name. -/
theorem named_merge {rules overrides : List Text}
    (unknown : ∀ wanted ∈ overrides, hasValue wanted = false → wanted ∉ rules.map name)
    (wanted : Text) :
    named (merge rules overrides) wanted =
      supersede (named rules wanted) (named (overrides.filter hasValue) wanted) := by
  rw [merge, fold_remove_unknown, named_fold_substitute]
  intro removal member
  obtain ⟨member, noValue⟩ := List.mem_filter.mp member
  exact unknown removal member (by simpa using noValue)

theorem named_merge_valued (rules : List Text) {overrides : List Text}
    (valued : ∀ rule ∈ overrides, hasValue rule = true) (wanted : Text) :
    named (merge rules overrides) wanted =
      supersede (named rules wanted) (named overrides wanted) := by
  rw [named_merge fun rule member valueless => absurd (valued rule member) (by simp [valueless]),
    List.filter_eq_self.mpr valued]

theorem supersede_of_length_le {old new : List Text} (single : (old ++ new).length ≤ 1) :
    supersede old new = old ++ new := by
  match old, new with
  | [], new => exact supersede_nil_left new
  | [rule], [] => rfl
  | _ :: _, _ :: _ => simp at single
  | _ :: _ :: _, [] => simp at single

theorem length_named_le {rules : List Text} (distinct : (rules.map name).Nodup) (wanted : Text) :
    (named rules wanted).length ≤ 1 := by
  induction rules with
  | nil => simp [named]
  | cons rule rules ih =>
      obtain ⟨new, distinct⟩ := List.nodup_cons.mp distinct
      rw [named_cons]
      split
      · rename_i same
        rw [(named_eq_nil_iff rules wanted).mpr (same ▸ new)]
        simp
      · exact ih distinct

theorem supersede_eq_nil_iff (old new : List Text) :
    supersede old new = [] ↔ old = [] ∧ new = [] := by
  rw [supersede]
  by_cases empty : old = []
  · simp [empty]
  · rw [if_neg empty]
    split <;> simp [empty]

/-- Rules are there as soon as one source has them. -/
theorem fold_supersede_eq_nil_iff (old : List Text) (lists : List (List Text)) :
    lists.foldl supersede old = [] ↔ old = [] ∧ ∀ rules ∈ lists, rules = [] := by
  induction lists generalizing old with
  | nil => simp
  | cons rules lists ih =>
      rw [List.foldl_cons, ih, supersede_eq_nil_iff, List.forall_mem_cons, and_assoc]

theorem supersede_single {old new : List Text} (oldSingle : old.length ≤ 1)
    (newSingle : new.length ≤ 1) : supersede old new = (new.getLast?.or old.getLast?).toList := by
  match old, new with
  | [], [] | [], [_] | [_], [] | [_], [_] => rfl
  | _ :: _ :: _, _ => simp at oldSingle
  | _, _ :: _ :: _ => simp at newSingle

/-- Of sources with one rule at most, the last that has one gives it. -/
theorem fold_supersede_single {lists : List (List Text)}
    (single : ∀ rules ∈ lists, rules.length ≤ 1) :
    lists.foldl supersede [] =
      (lists.foldl (fun found rules => rules.getLast?.or found) none).toList := by
  suffices general : ∀ old : List Text, old.length ≤ 1 → lists.foldl supersede old =
      (lists.foldl (fun found rules => rules.getLast?.or found) old.getLast?).toList from
    general [] (by simp)
  induction lists with
  | nil =>
      intro old oldSingle
      match old with
      | [] | [_] => rfl
      | _ :: _ :: _ => simp at oldSingle
  | cons rules lists ih =>
      intro old oldSingle
      obtain ⟨first, single⟩ := List.forall_mem_cons.mp single
      rw [List.foldl_cons, List.foldl_cons, supersede_single oldSingle first]
      cases rules.getLast?.or old.getLast? with
      | none => exact ih single [] (by simp)
      | some rule => exact ih single [rule] (by simp)

theorem mem_supersede_iff {old new : List Text} (nonempty : old ≠ []) (rule : Text) :
    rule ∈ supersede old new ↔ rule ∈ old.dropLast ∨ new.getLast?.or old.getLast? = some rule := by
  rw [supersede, if_neg nonempty]
  have parts := List.dropLast_concat_getLast nonempty
  split
  · rename_i none
    rw [none, Option.none_or, List.getLast?_eq_some_getLast nonempty, Option.some.injEq]
    conv => lhs; rw [← parts]
    simp [eq_comm]
  · rename_i last some
    simp [some, eq_comm]

theorem last_mem_supersede (old : List Text) {new : List Text} {rule : Text}
    (last : new.getLast? = some rule) : rule ∈ supersede old new := by
  by_cases empty : old = []
  · rw [supersede, if_pos empty]
    exact List.mem_of_getLast? last
  · rw [mem_supersede_iff empty, last]
    exact .inr rfl

/-- A single rule is superseded as a whole. -/
theorem mem_of_mem_supersede {old new : List Text} {rule : Text} (single : old.length ≤ 1)
    (nonempty : new ≠ []) (member : rule ∈ supersede old new) : rule ∈ new := by
  match old with
  | [] => rwa [supersede_nil_left] at member
  | [_] =>
      rw [mem_supersede_iff (by simp), List.getLast?_eq_some_getLast nonempty] at member
      simp only [List.dropLast_singleton, List.not_mem_nil, false_or, Option.some_or,
        Option.some.injEq] at member
      exact member ▸ List.getLast_mem nonempty
  | _ :: _ :: _ => simp at single

theorem length_supersede {old : List Text} (nonempty : old ≠ []) (new : List Text) :
    (supersede old new).length = old.length := by
  rw [supersede, if_neg nonempty]
  split
  · rfl
  · have filled := List.length_pos_iff.mpr nonempty
    rw [List.length_append, List.length_dropLast, List.length_singleton]
    omega

/-- Overrides change which rules have a known name, and not how many. -/
theorem length_named_merge {rules overrides : List Text}
    (valued : ∀ rule ∈ overrides, hasValue rule = true) {wanted : Text}
    (known : named rules wanted ≠ []) :
    (named (merge rules overrides) wanted).length = (named rules wanted).length := by
  rw [named_merge_valued rules valued, length_supersede known]

theorem named_of_single {rules : List Text} {wanted rule : Text}
    (single : (named rules wanted).length = 1) (member : rule ∈ rules) (same : name rule = wanted) :
    named rules wanted = [rule] := by
  obtain ⟨only, this⟩ := List.length_eq_one_iff.mp single
  have found : rule ∈ named rules wanted := mem_named_iff.mpr ⟨member, same⟩
  rw [this, List.mem_singleton] at found
  rw [this, found]

theorem merge_values_texts (rules overrides : List Text) :
    mergeValues (rules.map .text) (overrides.map .text) = .ok ((merge rules overrides).map .text) := by
  have texts : ∀ items : List Text, (items.map Value.text).mapM Value.text? = some items := by
    intro items
    induction items with
    | nil => rfl
    | cons item items ih => simp [List.mapM_cons, Value.text?, ih]
  have noFault : (overrides.map Value.text).findSome? earlyFault? = none := by
    simp [List.findSome?_eq_none_iff, earlyFault?]
  simp only [mergeValues, texts, noFault]

end LaunchPolicy.Env
