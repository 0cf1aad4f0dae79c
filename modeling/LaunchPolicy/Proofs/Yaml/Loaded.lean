import LaunchPolicy.Proofs.Action
import LaunchPolicy.Proofs.Yaml.Place
import LaunchPolicy.Yaml.Stream

/-!
Graphs of texts are closed. While a document is read, a collection is given only parts that have
been met, and only nodes of the document are met.
-/

namespace LaunchPolicy.Yaml

def Content.Within (content : Content) (bound : Nat) : Prop :=
  ∀ step part, content.part? step = some part → part < bound

section

variable {bound : Nat}

theorem scalar_within (s : Scalar) : (Content.scalar s).Within bound := by
  intro step part found
  contradiction

theorem within_list {items : List Nat} (each : ∀ item ∈ items, item < bound) :
    (Content.list items).Within bound := by
  intro step part found
  cases step with
  | item i => exact each part (List.mem_of_getElem? found)
  | _ => contradiction

theorem within_pairs {entries : List (Nat × Nat)}
    (each : ∀ entry ∈ entries, entry.1 < bound ∧ entry.2 < bound) :
    (Content.pairs entries).Within bound := by
  intro step part found
  cases step with
  | first i =>
      obtain ⟨entry, here, rfl⟩ := Option.map_eq_some_iff.mp found
      exact (each entry (List.mem_of_getElem? here)).1
  | second i =>
      obtain ⟨entry, here, rfl⟩ := Option.map_eq_some_iff.mp found
      exact (each entry (List.mem_of_getElem? here)).2
  | _ => contradiction

/-- A field whose key, if it is numbered, and whose value have numbers below a bound. -/
def FieldWithin (bound : Nat) (field : Key × Nat) : Prop :=
  (∀ id, field.1.id = some id → id < bound) ∧ field.2 < bound

theorem within_map {fields : List (Key × Nat)} (each : ∀ field ∈ fields, FieldWithin bound field) :
    (Content.map fields).Within bound := by
  intro step part found
  cases step with
  | key i =>
      obtain ⟨field, here, known⟩ := Option.bind_eq_some_iff.mp found
      exact (each field (List.mem_of_getElem? here)).1 part known
  | value i =>
      obtain ⟨field, here, rfl⟩ := Option.map_eq_some_iff.mp found
      exact (each field (List.mem_of_getElem? here)).2
  | _ => contradiction

theorem within_set {members : List Key} (each : ∀ key ∈ members, ∀ id, key.id = some id → id < bound) :
    (Content.set members).Within bound := by
  intro step part found
  cases step with
  | key i =>
      obtain ⟨key, here, known⟩ := Option.bind_eq_some_iff.mp found
      exact each key (List.mem_of_getElem? here) part known
  | _ => contradiction

theorem put_field_within {fields : List (Key × Nat)} {key : Key} {value : Nat}
    (each : ∀ field ∈ fields, FieldWithin bound field) (this : FieldWithin bound (key, value)) :
    ∀ field ∈ putField fields key value, FieldWithin bound field := by
  induction fields with
  | nil => simpa [putField] using this
  | cons field fields ih =>
      obtain ⟨first, rest⟩ := List.forall_mem_cons.mp each
      rw [putField]
      split
      · exact List.forall_mem_cons.mpr ⟨⟨first.1, this.2⟩, rest⟩
      · exact List.forall_mem_cons.mpr ⟨first, ih rest⟩

end

namespace Build

open LaunchPolicy.Action (Safe safe_pure safe_throw safe_lift safe_get safe_modify safe_map_m safe_fold safe_for_each
  safe_deeper)

variable {α : Type} {bound : Nat}

/-- The parts of all collections read so far are nodes of the document. -/
structure Bounded (bound : Nat) (s : Building) : Prop where
  size : s.contents.size = bound
  within : ∀ (id : Nat) (content : Content), s.contents[id]? = some (some content) →
    content.Within bound

/-- What the reading of nodes can fail with: they make no document, or the text of a scalar has not the
form of its tag. -/
inductive NodeFault : Fault → Prop
  | malformed : NodeFault .notYaml
  | scalar {tag : Tag} {text : Text} {fault : Fault} (refused : scalarOf? tag text = some (.error fault)) :
      NodeFault fault
  /-- A collection stands under the tag of a timestamp. -/
  | collection : NodeFault .wrongType
  /-- Nodes refer to others too many times over. -/
  | deep : NodeFault .tooDeep

/-- An action keeps what is read bounded, and its results have a property. -/
abbrev Ensures (bound : Nat) (action : Build α) (holds : α → Prop) : Prop :=
  Safe (Bounded bound) NodeFault action holds

theorem ensures_refuse (holds : α → Prop) : Ensures bound (refuse : Build α) holds :=
  safe_throw .malformed holds

theorem ensures_deeper {read : Build α} {holds : α → Prop} (safe : Ensures bound read holds) :
    Ensures bound (deeper read) holds :=
  safe_deeper .deep (fun _ _ bounded => ⟨bounded.size, bounded.within⟩) safe

/-! Actions that read and change nodes only -/

theorem ensures_node_at (id : Nat) : Ensures bound (nodeAt id) fun _ => True := by
  apply safe_get.bind
  intro s _
  split
  · exact safe_pure trivial
  · exact ensures_refuse _

theorem ensures_set_node (id : Nat) (node : Tagged) :
    Ensures bound (setNode id node) fun _ => True :=
  safe_modify fun _ bounded => ⟨bounded.size, bounded.within⟩

theorem ensures_entries_of (id : Nat) : Ensures bound (entriesOf id) fun _ => True := by
  apply (ensures_node_at id).bind
  intro node _
  split
  · exact safe_pure trivial
  · exact ensures_refuse _

theorem ensures_items_of (id : Nat) : Ensures bound (itemsOf id) fun _ => True := by
  apply (ensures_node_at id).bind
  intro node _
  split
  · exact safe_pure trivial
  · exact ensures_refuse _

theorem ensures_set_entries (id : Nat) (entries : List (Nat × Nat)) :
    Ensures bound (setEntries id entries) fun _ => True :=
  (ensures_node_at id).bind fun _ _ => ensures_set_node id _

/-- The four actions that take fields over call each other with less fuel. -/
theorem ensures_inherited (fuel : Nat) :
    (∀ id, Ensures bound (flatten fuel id) fun _ => True) ∧
      (∀ id position, Ensures bound (flattenFrom fuel id position) fun _ => True) ∧
      (∀ id, Ensures bound (inheritedFrom fuel id) fun _ => True) ∧
      (∀ ids, Ensures bound (inheritedFromAll fuel ids) fun _ => True) := by
  induction fuel with
  | zero =>
      refine ⟨?_, ?_, ?_, ?_⟩
      · intro id
        rw [flatten]
        exact ensures_refuse _
      · intro id position
        rw [flattenFrom]
        exact ensures_refuse _
      · intro id
        rw [inheritedFrom]
        exact ensures_refuse _
      · intro ids
        rw [inheritedFromAll]
        exact ensures_refuse _
  | succ fuel ih =>
      -- none of them touches what is read, so each step only passes the bound on
      obtain ⟨flat, flatFrom, from_, fromAll⟩ := ih
      refine ⟨?_, ?_, ?_, ?_⟩
      · intro id
        rw [flatten]
        apply (flatFrom id 0).bind
        intro inherited _
        split
        · exact (ensures_entries_of id).bind fun _ _ => ensures_set_entries id _
        · exact safe_pure trivial
      · intro id position
        rw [flattenFrom]
        apply (ensures_entries_of id).bind
        intro entries _
        split
        · exact safe_pure trivial
        · apply (ensures_node_at _).bind
          intro keyNode _
          split
          · apply (ensures_set_entries id _).bind
            intro _ _
            apply (from_ _).bind
            intro inherited _
            exact (flatFrom id position).bind fun _ _ => safe_pure trivial
          · split
            · exact (ensures_set_node _ _).bind fun _ _ => flatFrom id (position + 1)
            · exact flatFrom id (position + 1)
      · intro id
        rw [inheritedFrom]
        apply (ensures_node_at id).bind
        intro node _
        split
        · exact (ensures_deeper (flat id)).bind fun _ _ => ensures_entries_of id
        · exact fromAll _
        · exact ensures_refuse _
      · intro ids
        cases ids with
        | nil =>
            rw [inheritedFromAll]
            exact safe_pure trivial
        | cons id ids =>
            rw [inheritedFromAll]
            apply (ensures_node_at id).bind
            intro node _
            split
            · apply (ensures_deeper (flat id)).bind
              intro _ _
              apply (ensures_entries_of id).bind
              intro fields _
              exact (fromAll ids).bind fun _ _ => safe_pure trivial
            · exact ensures_refuse _

theorem ensures_text_of (room id : Nat) : Ensures bound (textOf room id) fun _ => True := by
  induction room generalizing id with
  | zero => exact safe_throw .deep _
  | succ room ih =>
      rw [textOf]
      apply (ensures_node_at id).bind
      intro node _
      split
      · exact safe_pure trivial
      · exact ensures_refuse _
      · rename_i entries _
        have tag : ∀ entry ∈ entries, Ensures bound
            (do return ((← nodeAt entry.1).tag, entry.2)) fun _ => True :=
          fun entry _ => (ensures_node_at entry.1).bind fun _ _ => safe_pure trivial
        apply (safe_map_m tag).bind
        intro tags _
        split
        · exact ih _
        · exact ensures_refuse _

/-! Nodes that are met -/

theorem ensures_set_content (id : Nat) {content : Content} (within : content.Within bound) :
    Ensures bound (setContent id content) fun _ => True := by
  apply safe_modify
  intro s bounded
  refine ⟨by simpa using bounded.size, fun other found here => ?_⟩
  rw [Array.getElem?_setIfInBounds] at here
  split at here
  · split at here
    · obtain rfl : content = found := by simpa using here
      exact within
    · contradiction
  · exact bounded.within other found here

theorem empty_content_within {tag : Tag} {content : Content}
    (empty : emptyContent? tag = some content) : content.Within bound := by
  intro step part found
  cases tag <;> simp only [emptyContent?, Option.some.injEq, reduceCtorEq] at empty <;> subst empty <;>
    cases step <;> simp [Content.part?] at found

theorem ensures_meet (id : Nat) : Ensures bound (meet id) fun _ => id < bound := by
  apply safe_get.bind
  intro s bounded
  split
  · rename_i content here
    exact safe_pure (bounded.size ▸ (Array.getElem?_eq_some_iff.mp here).1)
  · rename_i here
    have known : id < bound := bounded.size ▸ (Array.getElem?_eq_some_iff.mp here).1
    apply (ensures_node_at id).bind
    intro node _
    split
    · rename_i content empty
      apply (ensures_set_content id (empty_content_within empty)).bind
      intro _ _
      have waits : Ensures bound (modify fun s => { s with waiting := s.waiting ++ [id] })
          fun _ => True :=
        safe_modify fun _ bounded => ⟨bounded.size, bounded.within⟩
      exact waits.bind fun _ _ => safe_pure known
    · split
      · exact ensures_refuse _
      · apply safe_get.bind
        intro s _
        apply (ensures_text_of _ id).bind
        intro text _
        split
        · rename_i r read
          have fails : Outcome.FailsOnly NodeFault r := fun fault failed => .scalar (failed ▸ read)
          have stored : Ensures bound (do
              let content := Content.scalar (← r)
              setContent id content
              return content) fun _ => id < bound := by
            apply (safe_lift fails).bind
            intro s _
            exact (ensures_set_content id (scalar_within s)).bind fun _ _ => safe_pure known
          split
          · exact (safe_throw .collection fun _ => True).bind fun _ _ => stored
          · exact stored
        · split
          · exact (safe_throw .collection fun _ => True).bind fun _ _ => ensures_refuse _
          · exact ensures_refuse _
  · exact ensures_refuse _

theorem ensures_meet_key (id : Nat) :
    Ensures bound (meetKey id) fun key => ∀ known, key.id = some known → known < bound := by
  apply (ensures_meet id).bind
  intro content known
  split
  · refine safe_pure fun other same => ?_
    obtain rfl := Option.some.inj same
    exact known
  · exact ensures_refuse _

theorem ensures_fields_of (id : Nat) :
    Ensures bound (fieldsOf id) fun fields => ∀ field ∈ fields, FieldWithin bound field := by
  apply safe_get.bind
  intro s _
  apply safe_get.bind
  intro s _
  apply (ensures_entries_of id).bind
  intro _ _
  apply ((ensures_inherited _).1 id).bind
  intro _ _
  apply (ensures_entries_of id).bind
  intro entries _
  apply safe_fold
  · simp
  · rintro fields ⟨key, value⟩ each
    apply (ensures_meet_key key).bind
    intro key keyWithin
    apply (ensures_meet value).bind
    intro _ valueWithin
    exact safe_pure (put_field_within each ⟨keyWithin, valueWithin⟩)

theorem ensures_pair_of (id : Nat) :
    Ensures bound (pairOf id) fun entry => entry.1 < bound ∧ entry.2 < bound := by
  apply (ensures_entries_of id).bind
  intro entries _
  split
  · rename_i key value
    apply (ensures_meet key).bind
    intro _ keyWithin
    apply (ensures_meet value).bind
    intro _ valueWithin
    exact safe_pure ⟨keyWithin, valueWithin⟩
  · exact ensures_refuse _

variable {arrange : List Key → List Key}

theorem ensures_complete (perm : ∀ members, (arrange members).Perm members) (id : Nat) :
    Ensures bound (complete arrange id) fun _ => True := by
  have pairs : Ensures bound (do
      setContent id (.pairs (← (← itemsOf id).mapM pairOf))) fun _ => True := by
    apply (ensures_items_of id).bind
    intro items _
    apply (safe_map_m fun item _ => ensures_pair_of item).bind
    intro entries each
    exact ensures_set_content id (within_pairs each)
  apply (ensures_node_at id).bind
  intro node _
  split
  · apply (ensures_items_of id).bind
    intro items _
    have met : ∀ item ∈ items, Ensures bound (do
        let _ ← meet item
        pure (ForInStep.yield PUnit.unit)) fun next => next = .yield PUnit.unit ∧ item < bound :=
      fun item _ => (ensures_meet item).bind fun _ known => safe_pure ⟨rfl, known⟩
    apply (safe_for_each met).bind
    intro _ each
    exact ensures_set_content id (within_list each)
  · exact pairs
  · exact pairs
  · apply (ensures_fields_of id).bind
    intro fields each
    refine ensures_set_content id (within_set fun key member => ?_)
    obtain ⟨field, within, rfl⟩ := List.mem_map.mp ((perm _).mem_iff.mp member)
    exact (each field within).1
  · apply (ensures_fields_of id).bind
    intro fields each
    exact ensures_set_content id (within_map each)

theorem ensures_complete_all (perm : ∀ members, (arrange members).Perm members) (fuel : Nat) :
    Ensures bound (completeAll arrange fuel) fun _ => True := by
  induction fuel with
  | zero => exact safe_pure trivial
  | succ fuel ih =>
      apply safe_get.bind
      intro s _
      split
      · exact safe_pure trivial
      · rename_i id rest _
        have taken : Ensures bound (modify fun s => { s with waiting := rest }) fun _ => True :=
          safe_modify fun _ bounded => ⟨bounded.size, bounded.within⟩
        apply taken.bind
        intro _ _
        exact (ensures_complete perm id).bind fun _ _ => ih

/-- Nodes that were not met are read as null, and have no parts either. -/
theorem Bounded.closed {built : Building} {root : Nat} (bounded : Bounded bound built)
    (known : root < bound) :
    Graph.Closed { contents := built.contents.map (·.getD (.scalar .null)), root } := by
  intro path id found
  rw [Array.size_map, bounded.size]
  refine Graph.place_within (fun id step part next => ?_) known found
  obtain ⟨content, here, next⟩ := Option.bind_eq_some_iff.mp next
  rw [Graph.content?, Array.getElem?_map] at here
  obtain ⟨stored, at_, rfl⟩ := Option.map_eq_some_iff.mp here
  cases stored with
  | none => contradiction
  | some content => exact bounded.within id content at_ step part next

end Build

/-- Nodes of which none has been read yet. -/
theorem nothing_read (nodes : Array Tagged) (room : Nat) :
    Build.Bounded nodes.size { nodes, contents := nodes.map fun _ => none, room } := by
  refine ⟨by simp, fun id content here => ?_⟩
  simp at here

theorem ensures_read (machine : Machine) (root size : Nat) :
    Build.Ensures size (do
      let _ ← Build.meet root
      Build.completeAll machine.arrange size) fun _ => root < size := by
  apply (Build.ensures_meet root).bind
  intro _ known
  exact (Build.ensures_complete_all machine.arrange_perm size).weaken fun _ _ => known

theorem Written.graph_closed {machine : Machine} {written : Written} {g : Graph}
    (read : written.graph machine = .ok g) :
    g.Closed := by
  obtain ⟨⟨_, built⟩, ran, read⟩ := Outcome.bind_ok_iff.mp read
  obtain rfl := Except.ok.inj read
  obtain ⟨bounded, root⟩ := (ensures_read machine written.root _).ok (nothing_read _ _) ran
  exact bounded.closed root

theorem Written.graph_fault {machine : Machine} {written : Written} {fault : Fault}
    (failed : written.graph machine = .error fault) :
    Build.NodeFault fault := by
  rcases Outcome.bind_error_iff.mp failed with failed | ⟨_, _, failed⟩
  · exact (ensures_read machine written.root _).error (nothing_read _ _) failed
  · contradiction

theorem documents_from_closed {machine : Machine} {fuel : Nat} {next? : Compose (Option Written)}
    {state : Composing} {graphs : List Graph} (read : documentsFrom machine fuel next? state = .ok graphs) :
    ∀ g ∈ graphs, g.Closed := by
  induction fuel generalizing next? state graphs with
  | zero => contradiction
  | succ fuel ih =>
      obtain ⟨⟨next, later⟩, -, read⟩ := Outcome.bind_ok_iff.mp read
      cases next with
      | none =>
          obtain rfl := Except.ok.inj read
          simp
      | some written =>
          obtain ⟨g, first, read⟩ := Outcome.bind_ok_iff.mp read
          obtain ⟨others, rest, read⟩ := Outcome.bind_ok_iff.mp read
          obtain rfl := Except.ok.inj read
          exact List.forall_mem_cons.mpr ⟨Written.graph_closed first, ih rest⟩

theorem documents_closed {machine : Machine} {text : String} {graphs : List Graph}
    (read : documents machine text = .ok graphs) : ∀ g ∈ graphs, g.Closed := by
  rw [documents] at read
  split at read
  · exact documents_from_closed read
  · contradiction

end LaunchPolicy.Yaml
