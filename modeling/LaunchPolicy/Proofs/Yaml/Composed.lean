import LaunchPolicy.Proofs.Yaml.Loaded
import LaunchPolicy.Proofs.Yaml.Scanned

/-!
What the reading of a document can fail with. The grammar adds no faults of its own: a text that breaks it
is malformed, and where the tokens end early, the fault that ended them counts. The other faults are those
of scalars that do not have the form of their tags.
-/

namespace LaunchPolicy.Yaml

open Outcome (FailsOnly fails_only_ok fails_only_error fails_only_map_m)

namespace Compose

open LaunchPolicy.Action (Safe safe_pure safe_throw safe_get safe_set safe_modify safe_deeper)

variable {α β : Type}

/-- What ended the tokens is a fault of tokens. -/
def Ends (s : Composing) : Prop := ScanFault s.fault

/-- An action fails only as the tokens can, or where nodes are nested too deeply. -/
abbrev Refuses (action : Compose α) : Prop :=
  Safe Ends (fun fault => ScanFault fault ∨ fault = .tooDeep) action fun _ => True

theorem refuses_refuse : Refuses (refuse : Compose α) := safe_throw (.inl .malformed) _

theorem refuses_pure (a : α) : Refuses (pure a : Compose α) := safe_pure trivial

theorem Refuses.then {action : Compose α} {next : α → Compose β} (first : Refuses action)
    (each : ∀ a, Refuses (next a)) : Refuses (action >>= next) := first.bind fun a _ => each a

theorem refuses_change {change : Composing → Composing} (same : ∀ s, (change s).fault = s.fault) :
    Refuses (modify change) := by
  apply safe_modify
  intro s ends
  rwa [Ends, same s]

theorem refuses_peek : Refuses peek := by
  apply safe_get.bind
  intro s ends
  split
  · exact refuses_pure _
  · have stopped : ScanFault s.fault := ends
    exact safe_throw (.inl stopped) _

theorem refuses_advance : Refuses advance := refuses_change fun _ => rfl

theorem refuses_skipped {next : Compose α} (rest : Refuses next) : Refuses (do advance; next) :=
  refuses_advance.then fun _ => rest

/-! Nodes -/

theorem refuses_register (anchor : Option String) (node : Node) : Refuses (register anchor node) := by
  apply safe_get.bind
  intro s ends
  cases anchor with
  | none =>
      refine Refuses.then (safe_set ?_) fun _ => refuses_pure _
      exact ends
  | some name =>
      simp only
      split
      · exact refuses_refuse
      · refine Refuses.then (safe_set ?_) fun _ => refuses_pure _
        exact ends

theorem refuses_left_out : Refuses leftOut := refuses_register _ _

theorem refuses_aliased (name : String) : Refuses (aliased name) := by
  apply safe_get.bind
  intro s _
  split
  · exact refuses_pure _
  · exact refuses_refuse

theorem refuses_uri_of (handle : Option String) (suffix : String) : Refuses (uriOf handle suffix) := by
  cases handle with
  | none => exact refuses_pure _
  | some handle =>
      apply safe_get.bind
      intro s _
      split
      · exact refuses_pure _
      · exact refuses_refuse

theorem refuses_properties : Refuses properties := by
  apply refuses_peek.then
  intro token
  split
  · apply refuses_skipped
    apply refuses_peek.then
    intro token
    split
    · exact refuses_skipped ((refuses_uri_of _ _).then fun _ => refuses_pure _)
    · exact refuses_pure _
  · apply refuses_skipped
    apply refuses_peek.then
    intro token
    split
    · exact refuses_skipped ((refuses_uri_of _ _).then fun _ => refuses_pure _)
    · exact (refuses_uri_of _ _).then fun _ => refuses_pure _
  · exact refuses_pure _

theorem refuses_scalar (p : Properties) (text : Text) (plain : Bool) : Refuses (p.scalar text plain) :=
  refuses_register _ _

theorem refuses_collection (p : Properties) (empty : NodeBody) {read : Compose NodeBody}
    (content : Refuses read) : Refuses (p.collection empty read) := by
  apply (refuses_register _ _).then
  intro id
  apply (safe_deeper (.inr rfl) (fun _ _ ends => ends) content).bind
  intro body _
  have filled : Refuses (fill id body) := refuses_change fun _ => rfl
  exact filled.then fun _ => refuses_pure _

theorem refuses_map {read : Compose α} (content : Refuses read) (make : α → β) :
    Refuses (make <$> read) := by
  rw [map_eq_pure_bind]
  exact content.then fun _ => refuses_pure _

/-- Every reader of nodes with an amount of fuel fails only as the tokens can. -/
structure ReadersRefuse (fuel : Nat) : Prop where
  node : ∀ place, Refuses (node fuel place)
  blockItems : Refuses (blockItems fuel)
  looseItems : Refuses (looseItems fuel)
  blockPart : Refuses (blockPart fuel)
  blockFields : Refuses (blockFields fuel)
  blockValue : Refuses (blockValue fuel)
  flowItems : ∀ first, Refuses (flowItems fuel first)
  flowPair : ∀ closing, Refuses (flowPair fuel closing)
  flowValue : ∀ closing, Refuses (flowValue fuel closing)
  flowFields : ∀ first, Refuses (flowFields fuel first)

theorem readers_refuse_without_fuel : ReadersRefuse 0 where
  node := fun _ => by
    rw [Compose.node]
    exact refuses_refuse
  blockItems := by
    rw [Compose.blockItems]
    exact refuses_refuse
  looseItems := by
    rw [Compose.looseItems]
    exact refuses_refuse
  blockPart := by
    rw [Compose.blockPart]
    exact refuses_refuse
  blockFields := by
    rw [Compose.blockFields]
    exact refuses_refuse
  blockValue := by
    rw [Compose.blockValue]
    exact refuses_refuse
  flowItems := fun _ => by
    rw [Compose.flowItems]
    exact refuses_refuse
  flowPair := fun _ => by
    rw [Compose.flowPair]
    exact refuses_refuse
  flowValue := fun _ => by
    rw [Compose.flowValue]
    exact refuses_refuse
  flowFields := fun _ => by
    rw [Compose.flowFields]
    exact refuses_refuse

namespace ReadersRefuse

variable {fuel : Nat}

theorem next_node (readers : ReadersRefuse fuel) (place : Place) :
    Refuses (Compose.node (fuel + 1) place) := by
  rw [Compose.node]
  apply refuses_peek.then
  intro token
  split
  · exact refuses_skipped (refuses_aliased _)
  · apply refuses_properties.then
    intro p
    apply refuses_peek.then
    intro token
    split
    · exact refuses_collection p _ (refuses_map readers.looseItems _)
    · exact refuses_skipped (refuses_scalar p _ _)
    · exact refuses_skipped (refuses_collection p _ (refuses_map (readers.flowItems true) _))
    · exact refuses_skipped (refuses_collection p _ (refuses_map (readers.flowFields true) _))
    · exact refuses_skipped (refuses_collection p _ (refuses_map readers.blockItems _))
    · exact refuses_skipped (refuses_collection p _ (refuses_map readers.blockItems _))
    · exact refuses_skipped (refuses_collection p _ (refuses_map readers.blockFields _))
    · exact refuses_skipped (refuses_collection p _ (refuses_map readers.blockFields _))
    · split
      · exact refuses_scalar p _ _
      · exact refuses_refuse

theorem next_block_items (readers : ReadersRefuse fuel) : Refuses (Compose.blockItems (fuel + 1)) := by
  have more (item : Nat) : Refuses (do return item :: (← Compose.blockItems fuel)) :=
    readers.blockItems.then fun _ => refuses_pure _
  rw [Compose.blockItems]
  apply refuses_peek.then
  intro token
  split
  · apply refuses_skipped
    apply refuses_peek.then
    intro token
    split
    · exact refuses_left_out.then more
    · exact refuses_left_out.then more
    · exact (readers.node .block).then more
  · exact refuses_skipped (refuses_pure _)
  · exact refuses_refuse

theorem next_loose_items (readers : ReadersRefuse fuel) : Refuses (Compose.looseItems (fuel + 1)) := by
  have more (item : Nat) : Refuses (do return item :: (← Compose.looseItems fuel)) :=
    readers.looseItems.then fun _ => refuses_pure _
  rw [Compose.looseItems]
  apply refuses_peek.then
  intro token
  split
  · apply refuses_skipped
    apply refuses_peek.then
    intro token
    split
    · exact refuses_left_out.then more
    · exact refuses_left_out.then more
    · exact refuses_left_out.then more
    · exact refuses_left_out.then more
    · exact (readers.node .block).then more
  · exact refuses_pure _

theorem next_block_part (readers : ReadersRefuse fuel) : Refuses (Compose.blockPart (fuel + 1)) := by
  rw [Compose.blockPart]
  apply refuses_peek.then
  intro token
  split
  · exact refuses_left_out
  · exact refuses_left_out
  · exact refuses_left_out
  · exact readers.node .field

theorem next_block_fields (readers : ReadersRefuse fuel) : Refuses (Compose.blockFields (fuel + 1)) := by
  rw [Compose.blockFields]
  apply refuses_peek.then
  intro token
  split
  · exact refuses_skipped (refuses_pure _)
  · apply refuses_skipped
    apply readers.blockPart.then
    intro key
    apply readers.blockValue.then
    intro value
    exact readers.blockFields.then fun _ => refuses_pure _
  · exact refuses_refuse

theorem next_block_value (readers : ReadersRefuse fuel) : Refuses (Compose.blockValue (fuel + 1)) := by
  rw [Compose.blockValue]
  apply refuses_peek.then
  intro token
  split
  · exact refuses_skipped readers.blockPart
  · exact refuses_left_out

/-- What goes on after the entry mark that all entries but the first need. -/
theorem refuses_entry (first : Bool) (token : Token) {next : Compose α} (rest : Refuses next) :
    Refuses (do
      if !first then
        if token = .flowEntry then advance else refuse
      next) := by
  cases first with
  | true =>
      simp only [Bool.not_true, Bool.false_eq_true, if_false]
      exact rest
  | false =>
      simp only [Bool.not_false, if_true]
      split
      · exact refuses_skipped rest
      · exact refuses_refuse.then fun _ => rest

theorem next_flow_items (readers : ReadersRefuse fuel) (first : Bool) :
    Refuses (Compose.flowItems (fuel + 1) first) := by
  have more (item : Nat) : Refuses (do return item :: (← Compose.flowItems fuel false)) :=
    (readers.flowItems false).then fun _ => refuses_pure _
  rw [Compose.flowItems]
  apply refuses_peek.then
  intro token
  split
  · exact refuses_skipped (refuses_pure _)
  · apply refuses_entry
    apply refuses_peek.then
    intro token
    split
    · exact refuses_skipped (refuses_pure _)
    · have pair : Refuses (do
          advance
          return NodeBody.mapping [← Compose.flowPair fuel .flowSequenceEnd]) :=
        refuses_skipped ((readers.flowPair _).then fun _ => refuses_pure _)
      exact (refuses_collection _ _ pair).then more
    · exact (readers.node .flow).then more

theorem next_flow_pair (readers : ReadersRefuse fuel) (closing : Token) :
    Refuses (Compose.flowPair (fuel + 1) closing) := by
  have valued (key : Nat) : Refuses (do return (key, ← Compose.flowValue fuel closing)) :=
    (readers.flowValue closing).then fun _ => refuses_pure _
  rw [Compose.flowPair]
  apply refuses_peek.then
  intro token
  simp only
  split
  · exact refuses_left_out.then valued
  · exact (readers.node .flow).then valued

theorem next_flow_value (readers : ReadersRefuse fuel) (closing : Token) :
    Refuses (Compose.flowValue (fuel + 1) closing) := by
  rw [Compose.flowValue]
  apply refuses_peek.then
  intro token
  split
  · apply refuses_skipped
    apply refuses_peek.then
    intro token
    split
    · exact refuses_left_out
    · exact readers.node .flow
  · exact refuses_left_out

theorem next_flow_fields (readers : ReadersRefuse fuel) (first : Bool) :
    Refuses (Compose.flowFields (fuel + 1) first) := by
  have more (field : Nat × Nat) : Refuses (do return field :: (← Compose.flowFields fuel false)) :=
    (readers.flowFields false).then fun _ => refuses_pure _
  rw [Compose.flowFields]
  apply refuses_peek.then
  intro token
  split
  · exact refuses_skipped (refuses_pure _)
  · apply refuses_entry
    apply refuses_peek.then
    intro token
    split
    · exact refuses_skipped (refuses_pure _)
    · exact refuses_skipped ((readers.flowPair _).then more)
    · apply (readers.node .flow).then
      intro key
      exact refuses_left_out.then fun value => more (key, value)

end ReadersRefuse

theorem readers_refuse (fuel : Nat) : ReadersRefuse fuel := by
  induction fuel with
  | zero => exact readers_refuse_without_fuel
  | succ fuel readers =>
      exact ⟨readers.next_node, readers.next_block_items, readers.next_loose_items,
        readers.next_block_part, readers.next_block_fields, readers.next_block_value,
        readers.next_flow_items, readers.next_flow_pair, readers.next_flow_value,
        readers.next_flow_fields⟩

/-! Documents -/

theorem refuses_directives (fuel : Nat) (versioned : Bool) (handles : List (String × String)) :
    Refuses (directives fuel versioned handles) := by
  induction fuel generalizing versioned handles with
  | zero => exact refuses_refuse
  | succ fuel ih =>
      rw [directives]
      apply refuses_peek.then
      intro token
      split
      · apply refuses_skipped
        split
        · split
          · exact refuses_refuse
          · exact ih _ _
        · split
          · exact refuses_refuse
          · exact ih _ _
        · exact ih _ _
      · exact refuses_pure _

theorem refuses_enough_fuel : Refuses enoughFuel := safe_get.bind fun _ _ => refuses_pure _

theorem refuses_document {root : Compose Nat} (nodes : Refuses root) : Refuses (document root) := by
  have started : Refuses (modify fun s => { s with anchors := [], nodes := #[] }) :=
    refuses_change fun _ => rfl
  apply started.then
  intro _
  apply nodes.then
  intro root
  have written : Refuses (do return ⟨(← get).nodes, root⟩ : Compose Written) :=
    safe_get.bind fun _ _ => refuses_pure _
  apply refuses_peek.then
  intro token
  split
  · exact refuses_skipped written
  · exact written

theorem refuses_root_node : Refuses rootNode := by
  apply refuses_peek.then
  intro token
  split
  · exact refuses_left_out
  · exact refuses_left_out
  · exact refuses_left_out
  · exact refuses_left_out
  · exact refuses_enough_fuel.then fun fuel => (readers_refuse fuel).node .block

theorem refuses_skip_document_ends (fuel : Nat) : Refuses (skipDocumentEnds fuel) := by
  induction fuel with
  | zero => exact refuses_pure _
  | succ fuel ih =>
      rw [skipDocumentEnds]
      apply refuses_peek.then
      intro token
      split
      · exact refuses_skipped ih
      · exact refuses_pure _

theorem refuses_at_end : Refuses atEnd := by
  apply refuses_enough_fuel.then
  intro fuel
  apply (refuses_skip_document_ends fuel).then
  intro _
  exact refuses_peek.then fun _ => refuses_pure _

theorem refuses_marked_document : Refuses markedDocument? := by
  apply refuses_enough_fuel.then
  intro fuel
  apply (refuses_skip_document_ends fuel).then
  intro _
  apply refuses_peek.then
  intro token
  split
  · exact refuses_pure _
  · apply refuses_enough_fuel.then
    intro fuel
    apply (refuses_directives fuel false []).then
    intro handles
    apply refuses_peek.then
    intro token
    split
    · apply refuses_skipped
      have known : Refuses (modify fun s => { s with handles := handles ++ standardHandles }) :=
        refuses_change fun _ => rfl
      apply known.then
      intro _
      exact (refuses_document refuses_root_node).then fun _ => refuses_pure _
    · exact refuses_refuse

theorem refuses_first_document : Refuses firstDocument? := by
  apply refuses_peek.then
  intro token
  have unmarked : Refuses (do
      modify fun s => { s with handles := standardHandles }
      return some (← document (node (← enoughFuel) .block))) := by
    have known : Refuses (modify fun s => { s with handles := standardHandles }) :=
      refuses_change fun _ => rfl
    apply known.then
    intro _
    apply refuses_enough_fuel.then
    intro fuel
    exact (refuses_document ((readers_refuse fuel).node .block)).then fun _ => refuses_pure _
  split
  · exact refuses_marked_document
  · exact refuses_marked_document
  · exact refuses_marked_document
  · exact unmarked

end Compose

theorem Composing.start_ends (room : Nat) (text : List Char) :
    Compose.Ends (.start room (Tokens.ofText text)) := by
  unfold Compose.Ends Composing.start
  cases stopped : (Tokens.ofText text).fault with
  | none => exact .malformed
  | some fault => exact tokens_fault stopped

/-- What a document can fail with: its tokens, how they are nested, or the scalars that they make up. -/
theorem document_fault {machine : Machine} {text : String} {fault : Fault}
    (failed : document? machine text = .error fault) :
    (ScanFault fault ∨ fault = .tooDeep) ∨ Build.NodeFault fault := by
  unfold document? at failed
  simp only at failed
  split at failed
  · have ends := Composing.start_ends machine.yamlRead text.toList
    generalize Composing.start machine.yamlRead (Tokens.ofText text.toList) = start at ends failed
    rcases Outcome.bind_error_iff.mp failed with failed | ⟨⟨written?, state⟩, composed, failed⟩
    · exact .inl (Compose.refuses_first_document.error ends failed)
    · obtain ⟨ends, -⟩ := Compose.refuses_first_document.ok ends composed
      cases written? with
      | none => contradiction
      | some written =>
          rcases Outcome.bind_error_iff.mp failed with failed | ⟨⟨last, later⟩, -, failed⟩
          · exact .inl (Compose.refuses_at_end.error ends failed)
          · cases last with
            | false =>
                obtain rfl := Except.error.inj failed
                exact .inl (.inl .malformed)
            | true =>
                rcases Outcome.bind_error_iff.mp failed with failed | ⟨graph, -, failed⟩
                · exact .inr (Written.graph_fault failed)
                · contradiction
  · obtain rfl := Except.error.inj failed
    exact .inl (.inl .malformed)

/-! Kinds of faults -/

/-- The faults of a document: the text makes none, or one that is nested too deeply, or a scalar's text does
not have the form of its tag. -/
def IsDocumentFault : Fault → Prop
  | .notYaml | .tooDeep | .overflow | .badValue | .wrongType | .missingField _ | .emptyText | .noFields => True
  | _ => False

theorem required_fails {α : Type} (r : Option α) : FailsOnly IsDocumentFault (required r) := by
  cases r with
  | none => exact fails_only_error trivial
  | some a => exact fails_only_ok a

theorem split_sign_of_fails (cs : List Char) : FailsOnly IsDocumentFault (splitSignOf cs) := by
  rw [splitSignOf.eq_def]
  split
  · exact fails_only_error trivial
  · exact fails_only_ok _
  · exact fails_only_ok _
  · exact fails_only_ok _

theorem magnitude_fails (cs : List Char) : FailsOnly IsDocumentFault (magnitude cs) := by
  rw [magnitude.eq_def]
  split
  · exact fails_only_error trivial
  · exact fails_only_ok _
  · exact required_fails _
  · exact required_fails _
  · exact required_fails _
  · split
    · exact (fails_only_map_m fun part => required_fails _).bind fun parts => fails_only_ok _
    · exact required_fails _

theorem integer_of_fails (text : String) : FailsOnly IsDocumentFault (integerOf text) := by
  apply (split_sign_of_fails _).bind
  rintro ⟨negative, body⟩
  exact (magnitude_fails body).bind fun n => fails_only_ok _

theorem float_of_fails (text : String) : FailsOnly IsDocumentFault (floatOf text) := by
  apply (split_sign_of_fails _).bind
  rintro ⟨negative, body⟩
  simp only
  split
  · exact fails_only_ok _
  · split
    · exact fails_only_ok _
    · split
      · exact (fails_only_map_m fun part => required_fails _).bind fun parts => fails_only_ok _
      · exact (required_fails _).bind fun x => fails_only_ok _

theorem timestamp_of_fails (text : String) : FailsOnly IsDocumentFault (timestampOf text) := by
  rw [timestampOf]
  split
  · exact fails_only_error trivial
  · apply (required_fails _).bind
    intro date
    split
    · exact fails_only_ok _
    · exact (required_fails _).bind fun moment => fails_only_ok _

theorem boolean_of_fails (text : String) : FailsOnly IsDocumentFault (booleanOf text) := by
  rw [booleanOf]
  split <;> first | exact fails_only_ok _ | exact fails_only_error trivial

theorem octets_of_fails (text : String) : FailsOnly IsDocumentFault (octetsOf text) := by
  rw [octetsOf]
  split
  · exact fails_only_ok _
  · exact fails_only_error trivial

theorem scalar_fails {tag : Tag} {text : Text} {r : Except Fault Scalar}
    (scalar : scalarOf? tag text = some r) : FailsOnly IsDocumentFault r := by
  have mapped {α : Type} {r : Except Fault α} {f : α → Scalar} (fails : FailsOnly IsDocumentFault r) :
      FailsOnly IsDocumentFault (r.map f) := fun fault failed => by
    cases r with
    | error cause => exact Except.error.inj failed ▸ fails cause rfl
    | ok a => contradiction
  cases tag with
  | null =>
      obtain rfl := Option.some.inj scalar
      exact fails_only_ok _
  | bool =>
      obtain rfl := Option.some.inj scalar
      exact mapped (boolean_of_fails _)
  | int =>
      obtain rfl := Option.some.inj scalar
      exact mapped (integer_of_fails _)
  | float =>
      obtain rfl := Option.some.inj scalar
      exact mapped (float_of_fails _)
  | binary =>
      obtain rfl := Option.some.inj scalar
      exact mapped (octets_of_fails _)
  | timestamp =>
      obtain rfl := Option.some.inj scalar
      exact timestamp_of_fails _
  | str =>
      obtain rfl := Option.some.inj scalar
      exact fails_only_ok _
  | _ => contradiction

theorem Build.NodeFault.kind {fault : Fault} (faulty : NodeFault fault) : IsDocumentFault fault := by
  cases faulty with
  | malformed => trivial
  | scalar refused => exact scalar_fails refused _ rfl
  | collection => trivial
  | deep => trivial

theorem ScanFault.kind {fault : Fault} (faulty : ScanFault fault) : IsDocumentFault fault := by
  cases faulty with
  | malformed => trivial
  | version => trivial
  | code refused =>
      rw [pointOfCode] at refused
      split at refused
      · exact Except.error.inj refused ▸ trivial
      · split at refused
        · exact Except.error.inj refused ▸ trivial
        · contradiction

theorem document_fails (machine : Machine) (text : String) :
    FailsOnly IsDocumentFault (document? machine text) := by
  intro fault failed
  rcases document_fault failed with (scanned | rfl) | read
  · exact scanned.kind
  · trivial
  · exact read.kind

end LaunchPolicy.Yaml
