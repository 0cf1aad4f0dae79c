import LaunchPolicy.Proofs.Yaml.Graph

/-!
Places in a document. A place is a path of steps from the root, each from a collection to one of
its parts, so a value that is used twice has two places. A mapping that is changed shows in its
places and in the values that lead there, and nowhere else.
-/

namespace LaunchPolicy.Yaml

inductive Step where
  | item (index : Nat)
  | first (index : Nat)
  | second (index : Nat)
  | key (index : Nat)
  | value (index : Nat)
deriving DecidableEq, Repr

namespace Content

/-- The part of a collection that a step leads to. -/
def part? : Content → Step → Option Nat
  | .list items, .item i => items[i]?
  | .pairs entries, .first i => entries[i]?.map (·.1)
  | .pairs entries, .second i => entries[i]?.map (·.2)
  | .set members, .key i => members[i]?.bind (·.id)
  | .map fields, .key i => fields[i]?.bind (·.1.id)
  | .map fields, .value i => fields[i]?.map (·.2)
  | _, _ => none

/-- A collection reads the same when its parts do. -/
theorem view_congr {content : Content} {parts others : Nat → Value}
    (same : ∀ step part, content.part? step = some part → parts part = others part) :
    content.view parts = content.view others := by
  cases content with
  | scalar s => rfl
  | set members => rfl
  | list items =>
      have each : ∀ item ∈ items, parts item = others item := by
        intro item member
        obtain ⟨i, found⟩ := List.getElem?_of_mem member
        exact same (.item i) item found
      exact congrArg Value.list (List.map_congr_left each)
  | pairs entries =>
      have each : ∀ entry ∈ entries,
          Value.pair (parts entry.1) (parts entry.2) = .pair (others entry.1) (others entry.2) := by
        intro entry member
        obtain ⟨i, found⟩ := List.getElem?_of_mem member
        rw [same (.first i) entry.1 (by simp [part?, found]),
          same (.second i) entry.2 (by simp [part?, found])]
      exact congrArg Value.list (List.map_congr_left each)
  | map fields =>
      have each : ∀ field ∈ fields,
          (field.1.scalar, parts field.2) = (field.1.scalar, others field.2) := by
        intro field member
        obtain ⟨i, found⟩ := List.getElem?_of_mem member
        rw [same (.value i) field.2 (by simp [part?, found])]
      exact congrArg Value.map (List.map_congr_left each)

end Content

theorem field_split {fields : List (Key × Nat)} {name : String} {inner : Nat}
    (found : field? fields name = some inner) :
    ∃ before key rest, fields = before ++ (key, inner) :: rest ∧
      key.scalar.sameKey (.text name) = true ∧
      ∀ field ∈ before, field.1.scalar.sameKey (.text name) = false := by
  obtain ⟨⟨key, value⟩, first, rfl⟩ := Option.map_eq_some_iff.mp found
  obtain ⟨same, before, rest, split, new⟩ := List.find?_eq_some_iff_append.mp first
  exact ⟨before, key, rest, split, same, fun field member => by simpa using new field member⟩

/-- A field is put in one position; the others keep what they lead to. -/
theorem put_field_parts (fields : List (Key × Nat)) (name : String) (value : Nat) :
    ∃ i, ∀ step, (Content.map (putField fields { scalar := .text name } value)).part? step =
      if step = .value i then some value else (Content.map fields).part? step := by
  induction fields with
  | nil =>
      refine ⟨0, fun step => ?_⟩
      cases step with
      | value j => cases j <;> simp [putField, Content.part?]
      | key j => cases j <;> simp [putField, Content.part?]
      | _ => simp [Content.part?]
  | cons field fields ih =>
      obtain ⟨known, old⟩ := field
      rw [putField]
      split
      · refine ⟨0, fun step => ?_⟩
        cases step with
        | value j => cases j <;> simp [Content.part?]
        | key j => cases j <;> simp [Content.part?]
        | _ => simp [Content.part?]
      · obtain ⟨i, parts⟩ := ih
        refine ⟨i + 1, fun step => ?_⟩
        cases step with
        | value j =>
            cases j with
            | zero => simp [Content.part?]
            | succ j => simpa [Content.part?] using parts (.value j)
        | key j =>
            cases j with
            | zero => simp [Content.part?]
            | succ j => simpa [Content.part?] using parts (.key j)
        | _ => simp [Content.part?]

theorem view_put_field (parts : Nat → Value) (fields : List (Key × Nat)) (name : String)
    (value : Nat) :
    (Content.map (putField fields { scalar := .text name } value)).view parts =
      .map (((Content.map fields).view parts).ownFields.put (.text name) (parts value)) := by
  simp only [Content.view, Value.ownFields, Value.map.injEq]
  induction fields with
  | nil => rfl
  | cons field fields ih =>
      obtain ⟨known, old⟩ := field
      simp only [putField, List.map_cons, Fields.put]
      split
      · rfl
      · rw [List.map_cons, ih]

namespace Graph

variable {g after : Graph}

def part? (g : Graph) (id : Nat) (step : Step) : Option Nat :=
  (g.content? id).bind (·.part? step)

/-- The value at the end of a path of steps. -/
def place? (g : Graph) (id : Nat) : List Step → Option Nat
  | [] => some id
  | step :: path => (g.part? id step).bind fun part => g.place? part path

theorem place_append (id : Nat) (path more : List Step) :
    g.place? id (path ++ more) = (g.place? id path).bind fun middle => g.place? middle more := by
  induction path generalizing id with
  | nil => rfl
  | cons step path ih => cases found : g.part? id step <;> simp [place?, found, ih]

theorem place_concat_iff {id part : Nat} {path : List Step} {step : Step} :
    g.place? id (path ++ [step]) = some part ↔
      ∃ middle, g.place? id path = some middle ∧ g.part? middle step = some part := by
  rw [place_append, Option.bind_eq_some_iff]
  simp only [place?, Option.bind_fun_some]

theorem place_concat {id inner part : Nat} {path : List Step} {step : Step}
    (found : g.place? id path = some inner) (next : g.part? inner step = some part) :
    g.place? id (path ++ [step]) = some part := place_concat_iff.mpr ⟨inner, found, next⟩

theorem place_through {id inner part target : Nat} {path rest : List Step} {step : Step}
    (found : g.place? id path = some inner) (next : g.part? inner step = some part)
    (led : g.place? part rest = some target) : g.place? id (path ++ step :: rest) = some target := by
  rw [place_append, found, Option.bind_some, place?, next]
  exact led

/-- A value is another or contains it. -/
def Reaches (g : Graph) (id target : Nat) : Prop := ∃ path, g.place? id path = some target

theorem Reaches.of_part {id part target : Nat} {step : Step} (next : g.part? id step = some part)
    (reaches : g.Reaches part target) : g.Reaches id target := by
  obtain ⟨path, found⟩ := reaches
  exact ⟨step :: path, by rw [place?, next]; exact found⟩

/-- A value has one place in its document at most. -/
def SolePlace (g : Graph) (id : Nat) : Prop :=
  ∀ path other, g.place? g.root path = some id → g.place? g.root other = some id → path = other

/-- Of the parts of a value only one leads to a value with one place. -/
theorem SolePlace.step_eq {id part other target : Nat} {step otherStep : Step} {path : List Step}
    (sole : g.SolePlace target) (found : g.place? g.root path = some id)
    (next : g.part? id step = some part) (reaches : g.Reaches part target)
    (otherNext : g.part? id otherStep = some other) (otherReaches : g.Reaches other target) :
    step = otherStep := by
  obtain ⟨rest, led⟩ := reaches
  obtain ⟨otherRest, otherLed⟩ := otherReaches
  have same : path ++ step :: rest = path ++ otherStep :: otherRest :=
    sole _ _ (place_through found next led) (place_through found otherNext otherLed)
  exact (List.cons.inj (List.append_cancel_left same)).1

/-- A value with one place does not contain itself. -/
theorem SolePlace.not_reaches {part target : Nat} {step : Step} {path : List Step}
    (sole : g.SolePlace target) (found : g.place? g.root path = some target)
    (next : g.part? target step = some part) : ¬ g.Reaches part target := by
  rintro ⟨rest, led⟩
  have same : path = path ++ step :: rest := sole _ _ found (place_through found next led)
  simp at same

/-- Every place in a document has a value. -/
def Closed (g : Graph) : Prop :=
  ∀ path id, g.place? g.root path = some id → id < g.contents.size

theorem place_within {bound id inner : Nat} {path : List Step}
    (parts : ∀ id step part, g.part? id step = some part → part < bound) (known : id < bound)
    (found : g.place? id path = some inner) : inner < bound := by
  induction path generalizing id with
  | nil => exact Option.some.inj found ▸ known
  | cons step path ih =>
      obtain ⟨part, next, found⟩ := Option.bind_eq_some_iff.mp found
      exact ih (parts id step part next) found

theorem content_of_lt {id : Nat} (known : id < g.contents.size) :
    ∃ content, g.content? id = some content := ⟨_, Array.getElem?_eq_getElem known⟩

/-- What is read of the parts of a value that is read to a depth. -/
def below (g : Graph) : Nat → Nat → Value
  | 0, _ => .null
  | depth + 1, id => (g.views depth).getD id .null

theorem view_of_content {id : Nat} {content : Content} (here : g.content? id = some content)
    (depth : Nat) : (g.views depth).getD id .null = content.view (g.below depth) := by
  cases depth with
  | zero =>
      rw [content?] at here
      simp only [views, Array.getD_eq_getD_getElem?, Array.getElem?_map, here, Option.map_some,
        Option.getD_some]
      rfl
  | succ depth => exact view_at content here depth

/-- What is read to a depth is null, or the view of a value that is there. -/
theorem below_cases (g : Graph) (depth id : Nat) :
    g.below depth id = .null ∨ ∃ content shallower,
      g.content? id = some content ∧ g.below depth id = content.view (g.below shallower) := by
  cases depth with
  | zero => exact .inl rfl
  | succ depth =>
      rw [below]
      cases here : g.content? id with
      | none => exact .inl (view_at_absent here depth)
      | some content => exact .inr ⟨content, depth, rfl, view_of_content here depth⟩

theorem part_of_field {id inner : Nat} {name : String} (found : g.field? id name = some inner) :
    ∃ i, g.part? id (.value i) = some inner := by
  obtain ⟨fields, here, found⟩ := field_eq_some_iff.mp found
  obtain ⟨before, key, rest, rfl, -, -⟩ := field_split found
  exact ⟨before.length, by simp [part?, here, Content.part?]⟩

theorem reaches_of_follow {id target : Nat} {path : List String}
    (followed : g.follow? id path = some target) : g.Reaches id target := by
  induction path generalizing id with
  | nil => exact ⟨[], followed⟩
  | cons name path ih =>
      obtain ⟨inner, found, followed⟩ := Option.bind_eq_some_iff.mp followed
      obtain ⟨i, next⟩ := part_of_field found
      exact (ih followed).of_part next

/-- A mapping has a field set to a new value, and all values but that mapping are what they were. -/
structure SetsField (g after : Graph) (holder : Nat) (name : String) (value : Nat) : Prop where
  root : after.root = g.root
  here : ∃ fields, g.content? holder = some (.map fields) ∧
    after.content? holder = some (.map (putField fields { scalar := .text name } value))
  others : ∀ id, id < g.contents.size → id ≠ holder → after.content? id = g.content? id
  new : g.contents.size ≤ value
  grows : g.contents.size ≤ after.contents.size

/-- Values that do not contain the changed mapping read as before. -/
theorem SetsField.view_unreached {holder value : Nat} {name : String}
    (sets : SetsField g after holder name value) (closed : g.Closed) {id : Nat} {path : List Step}
    (found : g.place? g.root path = some id) (apart : ¬ g.Reaches id holder) (depth : Nat) :
    (after.views depth).getD id .null = (g.views depth).getD id .null := by
  have known := closed path id found
  obtain ⟨content, here⟩ := content_of_lt known
  have other : id ≠ holder := fun same => apart ⟨[], congrArg some same⟩
  rw [view_of_content here, view_of_content ((sets.others id known other).trans here)]
  -- a part of a value that does not contain the mapping does not contain it either
  induction depth generalizing id path content with
  | zero => rfl
  | succ depth ih =>
      apply Content.view_congr
      intro step part next
      have next : g.part? id step = some part := by rw [part?, here]; exact next
      have partFound := place_concat found next
      have partApart : ¬ g.Reaches part holder := fun reaches => apart (reaches.of_part next)
      have partKnown := closed _ part partFound
      obtain ⟨partContent, partHere⟩ := content_of_lt partKnown
      have partOther : part ≠ holder := fun same => partApart ⟨[], congrArg some same⟩
      simp only [below]
      rw [view_of_content partHere,
        view_of_content ((sets.others part partKnown partOther).trans partHere)]
      exact ih partFound partApart partKnown partContent partHere partOther

variable {holder value : Nat} {name : String} {path : List Step}

/-- The changed mapping reads as before but for the field that was set. -/
theorem SetsField.view_holder (sets : SetsField g after holder name value) (closed : g.Closed)
    (sole : g.SolePlace holder) (found : g.place? g.root path = some holder) (depth : Nat) :
    (after.views (depth + 1)).getD holder .null =
      .map (((g.views (depth + 1)).getD holder .null).ownFields.put (.text name)
        ((after.views depth).getD value .null)) := by
  obtain ⟨fields, here, set⟩ := sets.here
  have known := lt_size_of_content here
  have unchanged : (Content.map fields).view (after.below (depth + 1)) =
      (Content.map fields).view (g.below (depth + 1)) := by
    apply Content.view_congr
    intro step part next
    have next : g.part? holder step = some part := by rw [part?, here]; exact next
    exact sets.view_unreached closed (place_concat found next) (sole.not_reaches found next) depth
  rw [view_of_content set, view_of_content here, view_put_field, unchanged]
  rfl

/-- A value that leads to the changed mapping reads as before but for the field that leads there. -/
theorem SetsField.view_toward (sets : SetsField g after holder name value) (closed : g.Closed)
    (sole : g.SolePlace holder) {id inner : Nat} (found : g.place? g.root path = some id)
    {step : String} (next : g.field? id step = some inner) (leads : g.Reaches inner holder)
    (depth : Nat) :
    (after.views (depth + 1)).getD id .null =
      .map (((g.views (depth + 1)).getD id .null).ownFields.put (.text step)
        ((after.views depth).getD inner .null)) := by
  obtain ⟨fields, here, field⟩ := field_eq_some_iff.mp next
  obtain ⟨before, key, rest, rfl, same, new⟩ := field_split field
  have part : g.part? id (.value before.length) = some inner := by simp [part?, here, Content.part?]
  have other : id ≠ holder := by
    rintro rfl
    exact sole.not_reaches found part leads
  -- no other part of the value leads to the mapping
  have apart : ∀ i entry, (before ++ (key, inner) :: rest)[i]? = some entry → i ≠ before.length →
      (after.views depth).getD entry.2 .null = (g.views depth).getD entry.2 .null := by
    intro i entry at_ different
    have entryPart : g.part? id (.value i) = some entry.2 := by
      rw [part?, here, Option.bind_some, Content.part?, at_]
      rfl
    refine sets.view_unreached closed (place_concat found entryPart) (fun reaches => ?_) depth
    exact different (Step.value.inj (sole.step_eq found entryPart reaches part leads))
  have kept : ∀ entries : List (Key × Nat), (∀ entry ∈ entries,
      (after.views depth).getD entry.2 .null = (g.views depth).getD entry.2 .null) →
      entries.map (fun entry => (entry.1.scalar, (after.views depth).getD entry.2 .null)) =
        entries.map fun entry => (entry.1.scalar, (g.views depth).getD entry.2 .null) := by
    intro entries each
    exact List.map_congr_left fun entry member => by rw [each entry member]
  have keptBefore := kept before fun entry member => by
    obtain ⟨i, at_⟩ := List.getElem?_of_mem member
    have bound := (List.getElem?_eq_some_iff.mp at_).1
    exact apart i entry (by rw [List.getElem?_append_left bound, at_]) (Nat.ne_of_lt bound)
  have keptRest := kept rest fun entry member => by
    obtain ⟨i, at_⟩ := List.getElem?_of_mem member
    refine apart (before.length + 1 + i) entry ?_ (by omega)
    rw [List.getElem?_append_right (by omega), show before.length + 1 + i - before.length = i + 1
      by omega, List.getElem?_cons_succ, at_]
  have known := lt_size_of_content here
  rw [view_of_content here, view_of_content ((sets.others id known other).trans here)]
  simp only [Content.view, below, Value.ownFields, List.map_append, List.map_cons, keptBefore,
    keptRest]
  rw [Fields.put_at same]
  intro field member
  obtain ⟨entry, within, rfl⟩ := List.mem_map.mp member
  exact new entry within

end Graph

end LaunchPolicy.Yaml
