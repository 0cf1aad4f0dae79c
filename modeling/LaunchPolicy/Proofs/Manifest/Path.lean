import LaunchPolicy.Manifest.FieldPath
import LaunchPolicy.Proofs.Json.Numeral
import LaunchPolicy.Proofs.Value.Path
import Mathlib.Data.List.Induction

/-!
Paths of fields as people follow them: the text of a path is read back as its steps, and a step
leads from a mapping to a field, or from a list to an item.
-/

namespace LaunchPolicy

namespace FieldPath

/-! The steps that a text names -/

/-- How far a text has been read: the steps so far, and what has been read of the next one. -/
inductive Reading where
  | start
  | name (before : List PathStep) (chars : List Char)
  | index (before : List PathStep) (digits : List Char)
  /-- Behind a closing bracket. -/
  | closed (steps : List PathStep)
  | illegible
deriving DecidableEq, Repr

namespace Reading

def indexOf (digits : List Char) : Nat := Text.ofDigits 10 (digits.map (·.toNat - 48))

/-- A point ends a step and begins a name, a bracket encloses an index. -/
def next : Reading → Char → Reading
  | start, '[' => index [] []
  | start, c => name [] [c]
  | name before chars, '.' => name (before ++ [.field (String.ofList chars)]) []
  | name before chars, '[' => index (before ++ [.field (String.ofList chars)]) []
  | name before chars, c => name before (chars ++ [c])
  | index before digits, ']' => closed (before ++ [.item (indexOf digits)])
  | index before digits, c => if c.isDigit then index before (digits ++ [c]) else illegible
  | closed steps, '.' => name steps []
  | closed steps, '[' => index steps []
  | closed _, _ => illegible
  | illegible, _ => illegible

def steps? : Reading → Option (List PathStep)
  | start => some []
  | name before chars => some (before ++ [.field (String.ofList chars)])
  | closed steps => some steps
  | index _ _ | illegible => none

end Reading

/-- The steps of a path that is written as a text, from the root of a document. -/
def ofText? (text : String) : Option (List PathStep) :=
  (text.toList.foldl Reading.next .start).steps?

end FieldPath

namespace PathStep

/-- A step whose text can be told from what stands around it. -/
def Plain : PathStep → Prop
  | .field name => name ≠ "" ∧ ∀ c ∈ name.toList, c ≠ '.' ∧ c ≠ '['
  | .item _ => True

instance : (step : PathStep) → Decidable step.Plain
  | .field name =>
      @instDecidableAnd _ _ inferInstance (List.decidableBAll (fun c => c ≠ '.' ∧ c ≠ '[') name.toList)
  | .item _ => inferInstanceAs (Decidable True)

end PathStep

namespace FieldPath

namespace Reading

theorem next_name (before : List PathStep) (chars : List Char) {c : Char} (plain : c ≠ '.' ∧ c ≠ '[') :
    next (.name before chars) c = .name before (chars ++ [c]) := by
  obtain ⟨noPoint, noBracket⟩ := plain
  simp [next]

theorem next_index (before : List PathStep) (digits : List Char) {c : Char} (digit : c.isDigit = true) :
    next (.index before digits) c = .index before (digits ++ [c]) := by
  have noBracket : c ≠ ']' := by
    rintro rfl
    contradiction
  simp [next, digit]

theorem read_name (before : List PathStep) {chars : List Char}
    (plain : ∀ c ∈ chars, c ≠ '.' ∧ c ≠ '[') (known : List Char) :
    chars.foldl next (.name before known) = .name before (known ++ chars) := by
  induction chars generalizing known with
  | nil => simp
  | cons c chars ih =>
      obtain ⟨first, plain⟩ := List.forall_mem_cons.mp plain
      rw [List.foldl_cons, next_name before known first, ih plain]
      simp

theorem read_digits (before : List PathStep) {digits : List Char}
    (digital : ∀ c ∈ digits, c.isDigit = true) (known : List Char) :
    digits.foldl next (.index before known) = .index before (known ++ digits) := by
  induction digits generalizing known with
  | nil => simp
  | cons c digits ih =>
      obtain ⟨first, digital⟩ := List.forall_mem_cons.mp digital
      rw [List.foldl_cons, next_index before known first, ih digital]
      simp

/-- A name that nothing precedes is the first step. -/
theorem read_first {name : String} (named : name ≠ "") (plain : ∀ c ∈ name.toList, c ≠ '.' ∧ c ≠ '[') :
    name.toList.foldl next .start = .name [] name.toList := by
  cases chars : name.toList with
  | nil => exact absurd (String.toList_eq_nil_iff.mp chars) named
  | cons c rest =>
      rw [chars] at plain
      obtain ⟨first, plain⟩ := List.forall_mem_cons.mp plain
      have begins : next .start c = .name [] [c] := by simp [next, first.2]
      rw [List.foldl_cons, begins, read_name [] plain]
      rfl

/-- A name behind a point is the next step, whatever step was last. -/
theorem read_field {reading : Reading} {steps : List PathStep} (known : reading.steps? = some steps)
    (begun : reading ≠ .start) {name : List Char} (plain : ∀ c ∈ name, c ≠ '.' ∧ c ≠ '[') :
    ('.' :: name).foldl next reading = .name steps name := by
  cases reading with
  | start => contradiction
  | name before chars =>
      obtain rfl := Option.some.inj known
      simpa [next] using read_name (before ++ [.field (String.ofList chars)]) plain []
  | closed before =>
      obtain rfl := Option.some.inj known
      simpa [next] using read_name before plain []
  | index _ _ | illegible => contradiction

theorem read_item {reading : Reading} {steps : List PathStep} (known : reading.steps? = some steps)
    (index : Nat) :
    ('[' :: (Nat.toDigits 10 index ++ [']'])).foldl next reading = .closed (steps ++ [.item index]) := by
  have opened : next reading '[' = .index steps [] := by
    cases reading with
    | start | name _ _ | closed _ =>
        obtain rfl := Option.some.inj known
        rfl
    | index _ _ | illegible => contradiction
  have digital : ∀ c ∈ Nat.toDigits 10 index, c.isDigit = true := fun c member =>
    Nat.isDigit_of_mem_toDigits (by decide) (by decide) member
  rw [List.foldl_cons, opened, List.foldl_append, read_digits steps digital, List.nil_append]
  simp only [List.foldl_cons, List.foldl_nil, next, indexOf, Text.of_digits_to_digits]

end Reading

theorem to_list_item (before : String) (index : Nat) :
    (stepText before (.item index)).toList =
      before.toList ++ '[' :: (Nat.toDigits 10 index ++ [']']) := by
  simp [stepText, Nat.toDigits, toString, Nat.repr]

/-- Reading the text of a path comes to its steps, and has begun if there are any. -/
theorem read_text {steps : List PathStep} (plain : ∀ step ∈ steps, step.Plain) :
    ∃ reading : Reading, (text { steps }).toList.foldl Reading.next .start = reading ∧
      reading.steps? = some steps ∧ (text { steps } ≠ "" → reading ≠ .start) := by
  induction steps using List.reverseRecOn with
  | nil => exact ⟨.start, rfl, rfl, fun other => absurd rfl other⟩
  | append_singleton steps step ih =>
      obtain ⟨reading, reads, known, begun⟩ := ih fun other member => plain other (by simp [member])
      have last := plain step (by simp)
      have extended : text { steps := steps ++ [step] } = stepText (text { steps }) step := by
        simp [text]
      rw [extended]
      cases step with
      | item index =>
          refine ⟨.closed (steps ++ [.item index]), ?_, rfl, by simp⟩
          rw [to_list_item, List.foldl_append, reads, Reading.read_item known]
      | field name =>
          obtain ⟨named, plainName⟩ := last
          by_cases first : text { steps } = ""
          · rw [first] at reads
            obtain rfl : Reading.start = reading := reads
            obtain rfl := Option.some.inj known
            refine ⟨.name [] name.toList, ?_, by simp [Reading.steps?], by simp⟩
            rw [stepText, if_pos first]
            exact Reading.read_first named plainName
          · refine ⟨.name steps name.toList, ?_, by simp [Reading.steps?], by simp⟩
            rw [stepText, if_neg first, String.toList_append, String.toList_append, List.append_assoc,
              List.foldl_append, reads]
            exact Reading.read_field known (begun first) plainName

/-- A path with one more step. -/
def push (path : FieldPath) (step : PathStep) : FieldPath := { path with steps := path.steps ++ [step] }

/-- The text of a path says which path it is. -/
theorem of_text_text {steps : List PathStep} (plain : ∀ step ∈ steps, step.Plain) :
    ofText? (text { steps }) = some steps := by
  obtain ⟨reading, reads, known, -⟩ := read_text plain
  rw [ofText?, reads, known]

end FieldPath

namespace Value

/-- Where a step leads from a value, if it leads anywhere. -/
def step? : Value → PathStep → Option Value
  | .map fields, .field name => Fields.get? fields (.text name)
  | .list items, .item index => items[index]?
  | _, _ => none

/-- The value at the end of a path. -/
def resolve? (v : Value) (steps : List PathStep) : Option Value := steps.foldlM step? v

/-- A value has a place for what a step names: a mapping for every field, also one that it lacks, a
list for its items. -/
def HasPlace : Value → PathStep → Prop
  | .map _, .field _ => True
  | .list items, .item index => index < items.length
  | _, _ => False

theorem resolve_append (v : Value) (steps more : List PathStep) :
    v.resolve? (steps ++ more) = (v.resolve? steps).bind (·.resolve? more) := List.foldlM_append

theorem resolve_push (v : Value) (steps : List PathStep) (step : PathStep) :
    v.resolve? (steps ++ [step]) = (v.resolve? steps).bind (·.step? step) := by
  simp [resolve?, List.foldlM_append]

theorem resolve_cons (v : Value) (step : PathStep) (steps : List PathStep) :
    v.resolve? (step :: steps) = (v.step? step).bind (·.resolve? steps) := List.foldlM_cons

theorem step_field (v : Value) (name : String) : v.step? (.field name) = v.get? name := by
  cases v <;> rfl

theorem resolve_fields (v : Value) (names : List String) :
    v.resolve? (names.map .field) = v.at? names := by
  induction names generalizing v with
  | nil => rfl
  | cons name names ih =>
      rw [List.map_cons, resolve_cons, step_field, at?]
      exact congrArg _ (funext ih)

end Value

end LaunchPolicy
