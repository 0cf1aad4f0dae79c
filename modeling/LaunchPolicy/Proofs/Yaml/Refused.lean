import LaunchPolicy.Proofs.Value.Refusal
import LaunchPolicy.Proofs.Yaml.Anchor
import LaunchPolicy.Proofs.Yaml.Whole

/-!
Documents that are not written. The search for a part that is refused passes over what it has met, so
where every value has one place it sees the whole tree, and what is refused is the tree.
-/

namespace LaunchPolicy

namespace Yaml

/-- What a search comes to that starts from values it has met: it stops at a fault, or it has met values
of a region more. -/
def Searches (met : List Nat) (region : Nat → Prop) : Option Fault → Except Fault (List Nat) → Prop
  | none, .ok after => ∀ id ∈ after, id ∈ met ∨ region id
  | some fault, .error other => other = fault
  | _, _ => False

variable {met middle : List Nat} {region other : Nat → Prop} {fault next : Option Fault}
  {search : Except Fault (List Nat)}

theorem searches_unchanged (met : List Nat) (region : Nat → Prop) : Searches met region none (.ok met) :=
  fun _ before => .inl before

theorem Searches.weaken (searches : Searches met region fault search)
    (part : ∀ id, region id → other id) : Searches met other fault search := by
  cases fault <;> cases search
  · contradiction
  · exact fun id after => (searches id after).imp_right (part id)
  · exact searches
  · contradiction

theorem Searches.after (searches : Searches middle region fault search)
    (within : ∀ id ∈ middle, id ∈ met ∨ region id) : Searches met region fault search := by
  cases fault <;> cases search
  · contradiction
  · exact fun id after => (searches id after).elim (within id) .inr
  · exact searches
  · contradiction

/-- A search of a region goes on in a region around it. -/
theorem Searches.bind (first : Searches met region fault search) (part : ∀ id, region id → other id)
    {rest : List Nat → Except Fault (List Nat)}
    (later : ∀ after, (∀ id ∈ after, id ∈ met ∨ region id) → Searches after other next (rest after)) :
    Searches met other (fault <|> next) (search >>= rest) := by
  cases fault <;> cases search
  · contradiction
  · exact (later _ first).after fun id after => (first id after).imp_right (part id)
  · exact first
  · contradiction

/-- A scalar is refused before the search goes on. -/
theorem Searches.scalar (s : Scalar) {rest : Except Fault (List Nat)}
    (searches : Searches met region fault rest) :
    Searches met region (s.textFault? <|> fault) (scalarIsWritten s >>= fun _ => rest) := by
  rw [scalarIsWritten]
  cases s.textFault? with
  | none => exact searches
  | some refused => exact rfl

/-- Items whose regions have nothing in common are searched one after the other. -/
theorem searches_fold {α : Type} {visit : List Nat → α → Except Fault (List Nat)}
    {regions : Nat → Nat → Prop} (apart : ∀ i j id, regions i id → regions j id → i = j)
    {faults : α → Option Fault} {items : List α} (start : Nat)
    (each : ∀ i item (met : List Nat), items[i]? = some item → (∀ id ∈ met, ¬ regions (start + i) id) →
      Searches met (regions (start + i)) (faults item) (visit met item))
    (new : ∀ id ∈ met, ∀ i, start ≤ i → ¬ regions i id) :
    Searches met (fun id => ∃ i, start ≤ i ∧ regions i id) (items.findSome? faults)
      (items.foldlM visit met) := by
  induction items generalizing start met with
  | nil => exact searches_unchanged met _
  | cons item items ih =>
      have first := each 0 item met rfl fun id before => new id before start (Nat.le_refl start)
      have found : List.findSome? faults (item :: items) = (faults item <|> items.findSome? faults) := by
        rw [List.findSome?_cons]
        cases faults item <;> rfl
      rw [found, List.foldlM_cons]
      apply first.bind fun id here => ⟨start, Nat.le_refl _, here⟩
      intro after within
      have fresh : ∀ id ∈ after, ∀ i, start + 1 ≤ i → ¬ regions i id := by
        intro id member i le there
        rcases within id member with before | here
        · exact new id before i (Nat.le_of_succ_le le) there
        · have same := apart start i id here there
          omega
      refine (ih (start + 1) (fun i item met found new => ?_) fresh).weaken
        fun id ⟨i, le, here⟩ => ⟨i, Nat.le_of_succ_le le, here⟩
      have shifted : start + 1 + i = start + (i + 1) := by omega
      rw [shifted] at new ⊢
      exact each (i + 1) item met found new

namespace Graph

variable {g : Graph} {path : List Step} {id : Nat}

/-- The parts of a collection are searched after it. -/
theorem IsTree.entries_searched (tree : g.IsTree) (found : g.place? g.root path = some id)
    (new : ∀ other ∈ met, ¬ g.Beyond path other) {α : Type} {items : List α}
    {visit : List Nat → α → Except Fault (List Nat)} {faults : α → Option Fault}
    (each : ∀ i item (met : List Nat), items[i]? = some item → (∀ id ∈ met, ¬ g.BeyondEntry path i id) →
      Searches met (g.BeyondEntry path i) (faults item) (visit met item)) :
    Searches met (g.Beyond path) (items.findSome? faults) (items.foldlM visit (id :: met)) := by
  have here : g.Beyond path id := ⟨[], by rw [List.append_nil]; exact found⟩
  have fresh : ∀ part ∈ id :: met, ∀ i, 0 ≤ i → ¬ g.BeyondEntry path i part := by
    rintro part member i - ⟨step, -, beyond⟩
    rcases List.mem_cons.mp member with rfl | before
    · exact tree.not_beyond_step found beyond
    · exact new part before beyond.of_step
  have apart : ∀ i j part, g.BeyondEntry path i part → g.BeyondEntry path j part → i = j := by
    rintro i j part ⟨step, rfl, beyond⟩ ⟨other, rfl, otherBeyond⟩
    rw [tree.step_eq beyond otherBeyond]
  have parts : Searches (id :: met) (fun part => ∃ i, 0 ≤ i ∧ g.BeyondEntry path i part)
      (items.findSome? faults) (items.foldlM visit (id :: met)) := by
    refine searches_fold apart 0 (fun i item met found new => ?_) fresh
    rw [Nat.zero_add] at new ⊢
    exact each i item met found new
  apply (parts.weaken fun part ⟨i, _, step, _, beyond⟩ => beyond.of_step).after
  intro part member
  rcases List.mem_cons.mp member with rfl | before
  · exact .inr here
  · exact .inl before

theorem members_searched (members : List Key) :
    (members.forM fun member => scalarIsWritten member.scalar) =
      match (members.map (·.scalar)).findSome? Scalar.textFault? with
      | none => .ok ()
      | some fault => .error fault := by
  induction members with
  | nil => rfl
  | cons member members ih =>
      change (scalarIsWritten member.scalar >>= fun _ =>
        members.forM fun member => scalarIsWritten member.scalar) = _
      rw [List.map_cons, List.findSome?_cons, ih, scalarIsWritten]
      cases member.scalar.textFault? <;> rfl

/-- A document without repetitions is refused where its tree is. -/
theorem IsTree.is_written (tree : g.IsTree) {bound depth : Nat} (within : g.Within bound id)
    (enough : bound ≤ depth) (found : g.place? g.root path = some id)
    (new : ∀ other ∈ met, ¬ g.Beyond path other) (room : Nat) :
    Searches met (g.Beyond path) ((g.below depth id).textFault? room) (g.isWritten room met id) := by
  induction bound generalizing path id met depth room with
  | zero => exact absurd (within [] id rfl).1 (Nat.not_lt_zero _)
  | succ bound ih =>
      obtain ⟨depth, rfl⟩ := Nat.exists_eq_add_of_le' (Nat.le_trans (Nat.le_add_left 1 _) enough)
      obtain ⟨content, here⟩ := content_of_lt within.known
      have unmet : met.contains id = false := by
        rw [Bool.eq_false_iff, ne_eq, List.contains_iff_mem]
        exact fun before => new id before ⟨[], by rw [List.append_nil]; exact found⟩
      have part : ∀ step {part} {met : List Nat}, content.part? step = some part →
          (∀ other ∈ met, ¬ g.Beyond (path ++ [step]) other) → ∀ room,
          Searches met (g.Beyond (path ++ [step])) ((g.below depth part).textFault? room)
            (g.isWritten room met part) := by
        intro step part met leads new room
        have next : g.part? id step = some part := by rw [part?, here]; exact leads
        exact ih (within.part next) (by omega) (place_concat found next) new room
      rw [below, view_of_content here, isWritten.eq_def]
      simp only [here, unmet, Bool.false_eq_true, if_false]
      cases content with
      | scalar s =>
          have same : (Value.scalar s).textFault? room = s.textFault? := by cases room <;> rfl
          rw [Content.view, same]
          simp only [scalarIsWritten]
          cases s.textFault? with
          | none => exact searches_unchanged met _
          | some refused => exact rfl
      | list items =>
          cases room with
          | zero => exact rfl
          | succ room =>
              have items_fault : (Value.list (items.map (g.below depth))).textFault? (room + 1) =
                  items.findSome? fun item => (g.below depth item).textFault? room := by
                rw [Value.textFault?, Refusal.fault?, Refusal.items_fault_eq, List.findSome?_map]
                rfl
              rw [Content.view, items_fault]
              apply tree.entries_searched found new
              intro i item met member new
              exact (part (.item i) member
                (fun id before beyond => new id before ⟨_, rfl, beyond⟩) room).weaken
                  fun id beyond => ⟨_, rfl, beyond⟩
      | pairs entries =>
          -- a pair is a level of its own
          have pair_fault (room : Nat) (entry : Nat × Nat) :
              (Value.pair (g.below depth entry.1) (g.below depth entry.2)).textFault? (room + 1) =
                ((g.below depth entry.1).textFault? room <|> (g.below depth entry.2).textFault? room) := rfl
          have pairs_fault (room : Nat) :
              (Value.list (entries.map fun entry => .pair (g.below depth entry.1)
                (g.below depth entry.2))).textFault? (room + 1) =
              entries.findSome? fun entry =>
                (Value.pair (g.below depth entry.1) (g.below depth entry.2)).textFault? room := by
            rw [Value.textFault?, Refusal.fault?, Refusal.items_fault_eq, List.findSome?_map]
            rfl
          cases room with
          | zero => exact rfl
          | succ room =>
              rw [Content.view, pairs_fault]
              apply tree.entries_searched found new
              intro i entry met position new
              cases room with
              | zero => exact rfl
              | succ room =>
                  rw [pair_fault]
                  have first := part (.first i) (by rw [Content.part?, position]; rfl)
                    (fun id before beyond => new id before ⟨_, rfl, beyond⟩) room
                  apply first.bind fun id beyond => ⟨_, rfl, beyond⟩
                  intro after within
                  refine (part (.second i) (by rw [Content.part?, position]; rfl) ?_ room).weaken
                    fun id beyond => ⟨_, rfl, beyond⟩
                  intro id member beyond
                  rcases within id member with before | otherBeyond
                  · exact new id before ⟨.second i, rfl, beyond⟩
                  · exact Step.noConfusion (tree.step_eq beyond otherBeyond)
      | set members =>
          cases room with
          | zero => exact rfl
          | succ room =>
              have members_fault : (Value.set (members.map (·.scalar))).textFault? (room + 1) =
                  (members.map (·.scalar)).findSome? Scalar.textFault? := rfl
              rw [Content.view, members_fault]
              simp only [members_searched]
              cases (members.map (·.scalar)).findSome? Scalar.textFault? with
              | some refused => exact rfl
              | none =>
                  intro other member
                  rcases List.mem_cons.mp member with rfl | before
                  · exact .inr ⟨[], by rw [List.append_nil]; exact found⟩
                  · exact .inl before
      | map fields =>
          cases room with
          | zero => exact rfl
          | succ room =>
              have fields_fault : (Value.map (fields.map fun entry =>
                    (entry.1.scalar, g.below depth entry.2))).textFault? (room + 1) =
                  fields.findSome? fun field =>
                    field.1.scalar.textFault? <|> (g.below depth field.2).textFault? room := by
                rw [Value.textFault?, Refusal.fault?, Refusal.fields_fault_eq, List.findSome?_map]
                rfl
              rw [Content.view, fields_fault]
              apply tree.entries_searched found new
              intro i field met position new
              apply Searches.scalar
              refine (part (.value i) (by rw [Content.part?, position]; rfl)
                (fun id before beyond => new id before ⟨_, rfl, beyond⟩) room).weaken
                  fun id beyond => ⟨_, rfl, beyond⟩

/-- Whether and why a tree is written. -/
def treeIsWritten (room : Nat) (tree : Value) : Except Fault Unit :=
  match tree.textFault? room with
  | none => .ok ()
  | some fault => .error fault

theorem Unshared.is_written (unshared : g.Unshared) (room : Nat) :
    discard (g.isWritten room [] g.root) = treeIsWritten room g.tree := by
  have searched : Searches [] (g.Beyond []) ((g.below g.contents.size g.root).textFault? room)
      (g.isWritten room [] g.root) :=
    unshared.isTree.is_written unshared.within (Nat.le_refl _) (place_root g) (by simp) room
  rw [unshared.below_eq_tree (Nat.le_refl _)] at searched
  rw [treeIsWritten]
  generalize g.tree.textFault? room = fault at *
  generalize g.isWritten room [] g.root = search at *
  cases fault with
  | none =>
      cases search with
      | ok after => rfl
      | error other => contradiction
  | some fault =>
      cases search with
      | ok after => contradiction
      | error other =>
          obtain rfl : other = fault := searched
          rfl

end Graph

end Yaml

end LaunchPolicy
