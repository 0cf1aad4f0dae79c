import LaunchPolicy.Proofs.Yaml.Refused

/-!
The text of a document as that of its tree. A document of which no value has two places has no
anchors, so what is written of a value is what its tree says, and documents with the same trees are
written as the same text.
-/

namespace LaunchPolicy.Yaml

namespace Sheet

/-- A sheet without anchors. -/
def blank : Sheet := { graph := { contents := #[], root := 0 }, anchored := [] }

mutual

/-- Writes a tree. The values of a pair are written as the items of a sequence. -/
def writeTree : Value → Spot → Option Nat → Writing → Writing
  | .scalar s, spot, indent, w => { w with pen := writeScalar s spot indent w.pen }
  | .list [], _, _, w => { w with pen := writeEmpty "[" "]" w.pen }
  | .list (item :: items), spot, indent, w =>
      let inner := itemIndent spot indent w.pen
      writeTrees items inner (writeItem inner (writeTree item .item (some inner)) w)
  | .pair first second, _, indent, w =>
      let level := innerIndent indent false
      writeItem level (writeTree second .item (some level))
        (writeItem level (writeTree first .item (some level)) w)
  | .set members, _, indent, w =>
      let w := { w with pen := w.pen.indicator "!!set" true }
      let inner := innerIndent indent false
      if members.isEmpty then { w with pen := writeEmpty "\x7b" "\x7d" w.pen }
      else
        members.foldl (fun w member =>
          blank.writeField { scalar := member } inner
            (fun w => { w with pen := writeScalar .null .field (some inner) w.pen }) w) w
  | .map [], _, _, w => { w with pen := writeEmpty "\x7b" "\x7d" w.pen }
  | .map ((key, value) :: fields), _, indent, w =>
      let inner := innerIndent indent false
      writeFields fields inner
        (blank.writeField { scalar := key } inner (writeTree value .field (some inner)) w)

def writeTrees : List Value → Nat → Writing → Writing
  | [], _, w => w
  | item :: items, inner, w =>
      writeTrees items inner (writeItem inner (writeTree item .item (some inner)) w)

def writeFields : List (Scalar × Value) → Nat → Writing → Writing
  | [], _, w => w
  | (key, value) :: fields, inner, w =>
      writeFields fields inner
        (blank.writeField { scalar := key } inner (writeTree value .field (some inner)) w)

end

theorem write_tree_list (item : Value) (items : List Value) (spot : Spot) (indent : Option Nat)
    (w : Writing) :
    writeTree (.list (item :: items)) spot indent w =
      writeTrees (item :: items) (itemIndent spot indent w.pen) w := by
  rw [writeTree, writeTrees]

theorem write_tree_map (field : Scalar × Value) (fields : List (Scalar × Value)) (spot : Spot)
    (indent : Option Nat) (w : Writing) :
    writeTree (.map (field :: fields)) spot indent w =
      writeFields (field :: fields) (innerIndent indent false) w := by
  rw [writeTree, writeFields]

variable {sheet : Sheet} {g : Graph}

theorem write_anchor_blank (blank : sheet.anchored = []) (id : Nat) (w : Writing) :
    sheet.writeAnchor id w = (w, true) := by
  have none : sheet.anchor? id = none := by simp [anchor?, blank]
  rw [writeAnchor, none]

/-- Where nothing is anchored, the number of a key does not matter. -/
theorem write_key_blank (noAnchors : sheet.anchored = []) (key : Key) (spot : Spot)
    (indent : Option Nat) (w : Writing) :
    sheet.writeKey key spot indent w = blank.writeKey { scalar := key.scalar } spot indent w := by
  rw [writeKey, writeKey]
  cases key.id with
  | none => rfl
  | some id => simp [write_anchor_blank noAnchors]

theorem is_simple_blank (noAnchors : sheet.anchored = []) (written : List Nat) (key : Key) :
    sheet.isSimple written key = blank.isSimple [] { scalar := key.scalar } := by
  have none : (key.id.bind sheet.anchor?) = none := by
    cases key.id with
    | none => rfl
    | some id => simp [anchor?, noAnchors]
  rw [isSimple, isSimple, none]
  rfl

theorem write_field_blank (noAnchors : sheet.anchored = []) (key : Key) (indent : Nat)
    (value : Writing → Writing) (w : Writing) :
    sheet.writeField key indent value w =
      blank.writeField { scalar := key.scalar } indent value w := by
  have simple : ∀ written, blank.isSimple written { scalar := key.scalar } =
      blank.isSimple [] { scalar := key.scalar } := fun written => is_simple_blank rfl written _
  simp only [writeField, is_simple_blank noAnchors, simple, write_key_blank noAnchors]

theorem write_trees_fold {α : Type} (items : List α) (tree : α → Value) (inner : Nat)
    (visit : Writing → α → Writing)
    (each : ∀ item ∈ items, ∀ w, visit w item =
      writeItem inner (writeTree (tree item) .item (some inner)) w) (w : Writing) :
    items.foldl visit w = writeTrees (items.map tree) inner w := by
  induction items generalizing w with
  | nil => rfl
  | cons item items ih =>
      obtain ⟨here, rest⟩ := List.forall_mem_cons.mp each
      rw [List.foldl_cons, List.map_cons, writeTrees, here, ih rest]

theorem write_fields_fold {α : Type} (items : List α) (field : α → Scalar × Value) (inner : Nat)
    (visit : Writing → α → Writing)
    (each : ∀ item ∈ items, ∀ w, visit w item = blank.writeField { scalar := (field item).1 } inner
      (writeTree (field item).2 .field (some inner)) w) (w : Writing) :
    items.foldl visit w = writeFields (items.map field) inner w := by
  induction items generalizing w with
  | nil => rfl
  | cons item items ih =>
      obtain ⟨here, rest⟩ := List.forall_mem_cons.mp each
      rw [List.foldl_cons, List.map_cons, writeFields, here, ih rest]

/-- A value is written as its tree, given as much fuel and depth as its longest path needs. -/
theorem write_node_eq_write_tree {bound id : Nat} (within : g.Within bound id) {fuel depth : Nat}
    (enough : bound ≤ fuel) (deep : bound ≤ depth) (spot : Spot) (indent : Option Nat) (w : Writing) :
    ({ graph := g, anchored := [] } : Sheet).writeNode fuel spot indent id w =
      writeTree (g.below depth id) spot indent w := by
  induction bound generalizing id fuel depth spot indent w with
  | zero => exact absurd (within [] id rfl).1 (Nat.not_lt_zero _)
  | succ bound ih =>
      obtain ⟨fuel, rfl⟩ := Nat.exists_eq_add_of_le' (Nat.le_trans (Nat.le_add_left 1 _) enough)
      obtain ⟨depth, rfl⟩ := Nat.exists_eq_add_of_le' (Nat.le_trans (Nat.le_add_left 1 _) deep)
      obtain ⟨content, here⟩ := Graph.content_of_lt within.known
      -- every part has shorter paths, so the fuel and the depth that remain are enough for it
      have part : ∀ {step part}, content.part? step = some part → ∀ spot indent w,
          ({ graph := g, anchored := [] } : Sheet).writeNode fuel spot indent part w =
            writeTree (g.below depth part) spot indent w := by
        intro step part next
        have next : g.part? id step = some part := by rw [Graph.part?, here]; exact next
        exact ih (within.part next) (by omega) (by omega)
      rw [writeNode, Graph.below, Graph.view_of_content here]
      simp only [here, write_anchor_blank, ite_self, Bool.not_true, Bool.false_eq_true, if_false]
      cases content with
      | scalar s => rfl
      | list items =>
          have each : ∀ inner, ∀ item ∈ items, ∀ w,
              writeItem inner (({ graph := g, anchored := [] } : Sheet).writeNode fuel .item
                (some inner) item) w =
              writeItem inner (writeTree (g.below depth item) .item (some inner)) w := by
            intro inner item member w
            obtain ⟨i, found⟩ := List.getElem?_of_mem member
            have next : (Content.list items).part? (.item i) = some item := found
            rw [writeItem, writeItem, part next]
          cases items with
          | nil => rfl
          | cons item items =>
              rw [Content.view, List.map_cons, write_tree_list]
              exact write_trees_fold (item :: items) (g.below depth) _ _ (each _) w
      | pairs entries =>
          have each : ∀ inner, ∀ entry ∈ entries, ∀ w,
              writeItem inner (fun w => [entry.1, entry.2].foldl (fun w part =>
                writeItem (innerIndent (some inner) false)
                  (({ graph := g, anchored := [] } : Sheet).writeNode fuel .item
                    (some (innerIndent (some inner) false)) part) w) w) w =
              writeItem inner (writeTree (.pair (g.below depth entry.1) (g.below depth entry.2)) .item
                (some inner)) w := by
            intro inner entry member w
            obtain ⟨i, found⟩ := List.getElem?_of_mem member
            have first : (Content.pairs entries).part? (.first i) = some entry.1 := by
              rw [Content.part?, found]
              rfl
            have second : (Content.pairs entries).part? (.second i) = some entry.2 := by
              rw [Content.part?, found]
              rfl
            -- a pair is written as an item that is a sequence of its own
            simp only [List.foldl_cons, List.foldl_nil, writeItem, part first, part second, writeTree]
          cases entries with
          | nil => rfl
          | cons entry entries =>
              rw [Content.view, List.map_cons, write_tree_list]
              exact write_trees_fold (entry :: entries) (fun entry : Nat × Nat =>
                .pair (g.below depth entry.1) (g.below depth entry.2)) _ _ (each _) w
      | set members =>
          rw [Content.view, writeTree, List.isEmpty_map, List.foldl_map]
          simp only [@write_field_blank { graph := g, anchored := [] } rfl]
      | map fields =>
          have each : ∀ inner, ∀ field ∈ fields, ∀ w,
              ({ graph := g, anchored := [] } : Sheet).writeField field.1 inner
                (({ graph := g, anchored := [] } : Sheet).writeNode fuel .field (some inner) field.2) w =
              blank.writeField { scalar := field.1.scalar } inner
                (writeTree (g.below depth field.2) .field (some inner)) w := by
            intro inner field member w
            obtain ⟨i, found⟩ := List.getElem?_of_mem member
            have next : (Content.map fields).part? (.value i) = some field.2 := by
              rw [Content.part?, found]
              rfl
            rw [write_field_blank rfl, funext (part next .field (some inner))]
          cases fields with
          | nil => rfl
          | cons field fields =>
              rw [Content.view, List.map_cons, write_tree_map]
              exact write_fields_fold (field :: fields) (fun field : Key × Nat =>
                (field.1.scalar, g.below depth field.2)) _ _ (each _) w

end Sheet

/-- Writes a tree as a document. -/
def writeTreeDocument (tree : Value) (first : Bool) (pen : Pen) : Pen :=
  let pen := if first then pen else (pen.indentTo 0).indicator "---" true
  (Sheet.writeTree tree .root none { pen }).pen.indentTo 0

theorem write_document_eq {g : Graph} (unshared : g.Unshared) (first : Bool) (pen : Pen) :
    writeDocument g first pen = writeTreeDocument g.tree first pen := by
  have enough : g.contents.size ≤ 2 * g.contents.size + 2 := by omega
  rw [writeDocument, unshared.isTree.again_eq_nil, writeTreeDocument,
    ← unshared.below_eq_tree (Nat.le_refl _)]
  simp only [Sheet.write_node_eq_write_tree unshared.within enough (Nat.le_refl _)]

theorem write_documents_congr {documents others : List Graph}
    (unshared : ∀ document ∈ documents, document.Unshared)
    (othersUnshared : ∀ document ∈ others, document.Unshared)
    (same : documents.map Graph.tree = others.map Graph.tree) (first : Bool) (pen : Pen) :
    writeDocuments first documents pen = writeDocuments first others pen := by
  induction documents generalizing others first pen with
  | nil =>
      obtain rfl : others = [] := by simpa using same.symm
      rfl
  | cons document documents ih =>
      cases others with
      | nil => exact absurd same (by simp)
      | cons other others =>
          obtain ⟨here, rest⟩ := List.cons.inj same
          obtain ⟨unsharedHere, unshared⟩ := List.forall_mem_cons.mp unshared
          obtain ⟨otherUnshared, othersUnshared⟩ := List.forall_mem_cons.mp othersUnshared
          rw [writeDocuments, writeDocuments, write_document_eq unsharedHere,
            write_document_eq otherUnshared, here]
          exact ih unshared othersUnshared rest false _

theorem render_congr {documents others : List Graph}
    (unshared : ∀ document ∈ documents, document.Unshared)
    (othersUnshared : ∀ document ∈ others, document.Unshared)
    (same : documents.map Graph.tree = others.map Graph.tree) : render documents = render others := by
  rw [render, render, write_documents_congr unshared othersUnshared same]

theorem for_m_is_written (room : Nat) {documents : List Graph}
    (unshared : ∀ document ∈ documents, document.Unshared) :
    (documents.forM fun g => do discard (g.isWritten room [] g.root)) =
      (documents.map Graph.tree).forM (Graph.treeIsWritten room) := by
  induction documents with
  | nil => rfl
  | cons document documents ih =>
      obtain ⟨here, rest⟩ := List.forall_mem_cons.mp unshared
      change (discard _ >>= fun _ => _) = (_ >>= fun _ => _)
      rw [here.is_written, ih rest]

/-- Documents without repetitions are written by their trees. -/
theorem write_congr (room : Nat) {documents others : List Graph}
    (unshared : ∀ document ∈ documents, document.Unshared)
    (othersUnshared : ∀ document ∈ others, document.Unshared)
    (same : documents.map Graph.tree = others.map Graph.tree) :
    write room documents = write room others := by
  rw [write, write, for_m_is_written room unshared, for_m_is_written room othersUnshared, same,
    render_congr unshared othersUnshared same]

end LaunchPolicy.Yaml
