import Mathlib.Data.List.Basic

/-!
Lists with one item a key. An item that is put into such a list takes the place of the item
with its key, or goes last; so a key stands where it appeared first, with the item that was
put last.
-/

namespace LaunchPolicy.Keyed

section Keys

variable {κ : Type} [DecidableEq κ]

theorem erase_dups_concat (keys : List κ) (k : κ) :
    (keys ++ [k]).eraseDups = if k ∈ keys then keys.eraseDups else keys.eraseDups ++ [k] := by
  rw [List.eraseDups_append]
  by_cases member : k ∈ keys <;> simp [member, List.removeAll, List.eraseDups_cons]

theorem erase_dups_nodup (keys : List κ) : keys.eraseDups.Nodup := by
  rw [← List.reverse_reverse keys]
  induction keys.reverse with
  | nil => simp
  | cons k keys ih =>
      rw [List.reverse_cons, erase_dups_concat]
      split
      · exact ih
      · rename_i new
        rw [List.nodup_append]
        refine ⟨ih, by simp, fun a member b last same => new ?_⟩
        rw [List.mem_singleton] at last
        rwa [same, last, List.mem_eraseDups] at member

theorem erase_dups_of_nodup {keys : List κ} (distinct : keys.Nodup) : keys.eraseDups = keys := by
  induction keys with
  | nil => rfl
  | cons k keys ih =>
      obtain ⟨new, distinct⟩ := List.nodup_cons.mp distinct
      have others : (keys.filter fun other => !other == k) = keys := by
        apply List.filter_eq_self.mpr
        intro other member
        have different : other ≠ k := fun same => new (same ▸ member)
        simp [different]
      rw [List.eraseDups_cons, others, ih distinct]

/-- Repetitions may as well be erased from a part first. -/
theorem erase_dups_append_erase_dups (front keys : List κ) :
    (front ++ keys.eraseDups).eraseDups = (front ++ keys).eraseDups := by
  rw [← List.reverse_reverse keys]
  induction keys.reverse with
  | nil => simp
  | cons k keys ih =>
      rw [List.reverse_cons, ← List.append_assoc, erase_dups_concat, erase_dups_concat]
      by_cases member : k ∈ keys.reverse
      · rw [if_pos member, if_pos (List.mem_append_right _ member), ih]
      · rw [if_neg member, ← List.append_assoc, erase_dups_concat, ih]
        simp only [List.mem_append, List.mem_eraseDups]

end Keys

variable {α κ : Type} [DecidableEq κ] (key : α → κ)

/-- Puts an item in the place of the one with its key, or last. -/
def put (items : List α) (item : α) : List α :=
  match items with
  | [] => [item]
  | known :: rest => if key known = key item then item :: rest else known :: put rest item

def last? (items : List α) (k : κ) : Option α := (items.filter fun item => key item = k).getLast?

theorem last_append (items more : List α) (k : κ) :
    last? key (items ++ more) k = (last? key more k).or (last? key items k) := by
  rw [last?, List.filter_append, List.getLast?_append]
  rfl

theorem last_cons (item : α) (items : List α) (k : κ) :
    last? key (item :: items) k =
      (last? key items k).or (if key item = k then some item else none) := by
  rw [← List.singleton_append, last_append]
  by_cases same : key item = k <;> simp [last?, same]

theorem last_eq_none_iff (items : List α) (k : κ) :
    last? key items k = none ↔ k ∉ items.map key := by
  simp [last?]

theorem key_of_last {items : List α} {k : κ} {item : α} (last : last? key items k = some item) :
    key item = k := by
  have member := List.mem_of_getLast? last
  simpa using (List.mem_filter.mp member).2

theorem mem_of_last {items : List α} {k : κ} {item : α} (last : last? key items k = some item) :
    item ∈ items := (List.mem_filter.mp (List.mem_of_getLast? last)).1

theorem keys_put (items : List α) (item : α) :
    (put key items item).map key =
      if key item ∈ items.map key then items.map key else items.map key ++ [key item] := by
  induction items with
  | nil => simp [put]
  | cons known rest ih =>
      by_cases same : key known = key item
      · simp [put, same]
      · simp only [put, same, if_false, List.map_cons, ih, List.mem_cons, Ne.symm same, false_or]
        split <;> simp

theorem mem_put {items : List α} {item other : α} (member : other ∈ put key items item) :
    other = item ∨ other ∈ items := by
  induction items with
  | nil => simpa [put] using member
  | cons known rest ih =>
      rw [put] at member
      split at member
      · exact (List.mem_cons.mp member).imp_right (List.mem_cons_of_mem known)
      · rcases List.mem_cons.mp member with rfl | member
        · exact .inr List.mem_cons_self
        · exact (ih member).imp_right (List.mem_cons_of_mem known)

theorem last_put {items : List α} (distinct : (items.map key).Nodup) (item : α) (k : κ) :
    last? key (put key items item) k = if key item = k then some item else last? key items k := by
  induction items with
  | nil => simp [put, last?]
  | cons known rest ih =>
      obtain ⟨new, distinct⟩ := List.nodup_cons.mp distinct
      by_cases same : key known = key item
      · have sole := (last_eq_none_iff key rest (key known)).mpr new
        simp only [put, same, if_true, last_cons]
        by_cases this : key item = k
        · rw [same, this] at sole
          simp [this, sole]
        · simp [this]
      · simp only [put, same, if_false, last_cons, ih distinct]
        by_cases this : key item = k
        · simp [this]
        · simp [this]

/-- Items of some keys may be picked before an item is put or after. -/
theorem filter_put (p : κ → Bool) (items : List α) (item : α) :
    (put key items item).filter (fun other => p (key other)) =
      if p (key item) then put key (items.filter fun other => p (key other)) item
      else items.filter fun other => p (key other) := by
  induction items with
  | nil => cases passes : p (key item) <;> simp [put, passes]
  | cons known rest ih =>
      by_cases same : key known = key item
      · cases passes : p (key item) <;> simp [put, same, passes]
      · rw [put, if_neg same, List.filter_cons, List.filter_cons, ih]
        cases passes : p (key item) <;> cases first : p (key known) <;> simp [put, same]

theorem filter_fold (p : κ → Bool) (items more : List α) :
    (more.foldl (put key) items).filter (fun other => p (key other)) =
      (more.filter fun other => p (key other)).foldl (put key) (items.filter fun other => p (key other)) := by
  induction more generalizing items with
  | nil => rfl
  | cons item more ih =>
      rw [List.foldl_cons, ih, filter_put, List.filter_cons]
      cases p (key item) <;> rfl

theorem find_put (items : List α) (item : α) (k : κ) :
    (put key items item).find? (fun other => key other = k) =
      if key item = k then some item else items.find? fun other => key other = k := by
  induction items with
  | nil => by_cases this : key item = k <;> simp [put, this]
  | cons known rest ih =>
      by_cases same : key known = key item
      · rw [put, if_pos same]
        by_cases this : key item = k <;> simp [same, this]
      · rw [put, if_neg same, List.find?_cons, List.find?_cons, ih]
        by_cases first : key known = k
        · have other : key item ≠ k := fun this => same (first.trans this.symm)
          simp [first, other]
        · simp [first]

theorem find_fold (items more : List α) (k : κ) :
    (more.foldl (put key) items).find? (fun other => key other = k) =
      (last? key more k).or (items.find? fun other => key other = k) := by
  induction more generalizing items with
  | nil => rfl
  | cons item more ih =>
      rw [List.foldl_cons, ih, find_put, last_cons]
      by_cases same : key item = k <;> simp [same]

theorem filter_of_last {items : List α} (distinct : (items.map key).Nodup) {k : κ} {item : α}
    (last : last? key items k = some item) : (items.filter fun other => key other = k) = [item] := by
  induction items with
  | nil => contradiction
  | cons known rest ih =>
      obtain ⟨new, distinct⟩ := List.nodup_cons.mp distinct
      rw [last_cons] at last
      by_cases same : key known = k
      · have none := (last_eq_none_iff key rest k).mpr (same ▸ new)
        have rest : (rest.filter fun other => key other = k) = [] := by
          rw [List.filter_eq_nil_iff]
          intro other member here
          exact new (List.mem_map.mpr ⟨other, member, (by simpa using here : key other = k).trans same.symm⟩)
        rw [none, if_pos same] at last
        obtain rfl := Option.some.inj last
        rw [List.filter_cons, if_pos (by simpa using same), rest]
      · rw [if_neg same, Option.or_none] at last
        rw [List.filter_cons, if_neg (by simpa using same), ih distinct last]

/-- A list with one item a key is what its keys look up. -/
theorem items_of_keys {items : List α} (distinct : (items.map key).Nodup) :
    (items.map key).filterMap (last? key items) = items := by
  induction items with
  | nil => rfl
  | cons item items ih =>
      obtain ⟨new, distinct⟩ := List.nodup_cons.mp distinct
      have first : last? key (item :: items) (key item) = some item := by
        rw [last_cons, (last_eq_none_iff key items (key item)).mpr new]
        simp
      have others : (items.map key).filterMap (last? key (item :: items)) =
          (items.map key).filterMap (last? key items) := by
        apply List.filterMap_congr
        intro k member
        have different : key item ≠ k := fun same => new (same ▸ member)
        simp [last_cons, different]
      rw [List.map_cons, List.filterMap_cons_some first, others, ih distinct]

/-- Which items are left of all that were put: one a key, the last, where the first was. -/
structure Keeps (kept all : List α) : Prop where
  keys : kept.map key = (all.map key).eraseDups
  last : ∀ k, last? key kept k = last? key all k

variable {key}

theorem keeps_nil : Keeps key [] [] := ⟨rfl, fun _ => rfl⟩

theorem Keeps.distinct {kept all : List α} (keeps : Keeps key kept all) :
    (kept.map key).Nodup := keeps.keys ▸ erase_dups_nodup _

theorem Keeps.put {kept all : List α} (keeps : Keeps key kept all) (item : α) :
    Keeps key (put key kept item) (all ++ [item]) := by
  constructor
  · rw [keys_put, keeps.keys, List.map_append, List.map_cons, List.map_nil, erase_dups_concat]
    simp only [List.mem_eraseDups]
  · intro k
    rw [last_put key keeps.distinct, last_append, keeps.last]
    by_cases same : key item = k <;> simp [last?, same]

theorem Keeps.fold {kept all : List α} (keeps : Keeps key kept all) (items : List α) :
    Keeps key (items.foldl (Keyed.put key) kept) (all ++ items) := by
  induction items generalizing kept all with
  | nil => simpa using keeps
  | cons item items ih =>
      have rest := ih (keeps.put item)
      rwa [List.append_assoc] at rest

theorem keeps_fold (items : List α) : Keeps key (items.foldl (put key) []) items :=
  keeps_nil.fold items

/-- What is left of all items is left as well when a part had been reduced before. -/
theorem Keeps.reduced {kept part front reduced : List α} (keeps : Keeps key reduced part)
    (whole : Keeps key kept (front ++ reduced)) : Keeps key kept (front ++ part) := by
  constructor
  · rw [whole.keys, List.map_append, keeps.keys, erase_dups_append_erase_dups, List.map_append]
  · intro k
    rw [whole.last, last_append, last_append, keeps.last]

theorem Keeps.unique {kept other all : List α} (keeps : Keeps key kept all)
    (same : Keeps key other all) : kept = other := by
  have lookups : last? key kept = last? key other := by
    funext k
    rw [keeps.last, same.last]
  rw [← items_of_keys key keeps.distinct, ← items_of_keys key same.distinct, keeps.keys, same.keys,
    lookups]

theorem Keeps.mem_iff {kept all : List α} (keeps : Keeps key kept all) (item : α) :
    item ∈ kept ↔ last? key all (key item) = some item := by
  constructor
  · intro member
    rw [← items_of_keys key keeps.distinct] at member
    obtain ⟨k, -, found⟩ := List.mem_filterMap.mp member
    rw [key_of_last key found, ← keeps.last, found]
  · intro last
    rw [← keeps.last] at last
    exact mem_of_last key last

theorem Keeps.subset {kept all : List α} (keeps : Keeps key kept all) {item : α}
    (member : item ∈ kept) : item ∈ all := mem_of_last key ((keeps.mem_iff item).mp member)

variable (key) in
/-- A list that keeps all items of another, has besides only such of some more items as have a new key,
and lacks no key of those. -/
structure Adds (more kept wide : List α) : Prop where
  keeps : ∀ item ∈ kept, item ∈ wide
  adds : ∀ item ∈ wide, item ∉ kept → item ∈ more ∧ key item ∉ kept.map key
  covers : ∀ item ∈ more, key item ∈ wide.map key

/-- Items in front of others are kept only under keys that the others do not have, and change nothing
of what is kept of those. -/
theorem Keeps.in_front {kept all front wide : List α} (keeps : Keeps key kept all)
    (whole : Keeps key wide (front ++ all)) : Adds key front kept wide := by
  constructor
  · intro item member
    rw [whole.mem_iff, last_append, (keeps.mem_iff item).mp member, Option.some_or]
  · intro item member new
    have last := (whole.mem_iff item).mp member
    rw [last_append] at last
    cases found : last? key all (key item) with
    | some other =>
        rw [found, Option.some_or] at last
        exact absurd ((keeps.mem_iff item).mpr (found.trans last)) new
    | none =>
        rw [found, Option.none_or] at last
        refine ⟨mem_of_last key last, ?_⟩
        rwa [keeps.keys, List.mem_eraseDups, ← last_eq_none_iff]
  · intro item member
    rw [whole.keys, List.mem_eraseDups]
    exact List.mem_map_of_mem (List.mem_append_left all member)

end LaunchPolicy.Keyed
