import LaunchPolicy.Proofs.Pattern.Width
import Mathlib.Algebra.GroupWithZero.Nat

/-!
What is read from a text is less wide than the text is long, by one for each operator in it. So a text
with operators does not admit itself alone.
-/

namespace LaunchPolicy

namespace Pattern

/-- A special character that stands for no character of a text. -/
def isOperator (c : Char) : Bool := decide (c ∈ special ∧ c ≠ '.')

theorem width_of_sequence (items : List Pattern) :
    (sequence items).width = (items.map width).sum := by
  induction items with
  | nil => rfl
  | cons item items ih => rw [sequence, width, ih, List.map_cons, List.sum_cons]

theorem blunt_of_sequence {items : List Pattern} (blunt : ∀ item ∈ items, item.Blunt) :
    (sequence items).Blunt := by
  induction items with
  | nil => trivial
  | cons item items ih =>
      obtain ⟨here, rest⟩ := List.forall_mem_cons.mp blunt
      exact ⟨here, ih rest⟩

theorem fold_le {α : Type} {grow : Nat → α → Nat} {more : Nat}
    (each : ∀ item a b, a ≤ b + more → grow a item ≤ grow b item + more) (items : List α) {a b : Nat}
    (less : a ≤ b + more) : items.foldl grow a ≤ items.foldl grow b + more := by
  induction items generalizing a b with
  | nil => exact less
  | cons item items ih => exact ih (each item a b less)

namespace Group

/-- The width of a group with one more item of some width. -/
def span (group : Group) (extra : Nat) : Nat :=
  group.earlier.foldl (fun widest earlier => max earlier.width widest)
    (extra + (group.items.map width).sum)

def Blunt (group : Group) : Prop :=
  (∀ pattern ∈ group.earlier, pattern.Blunt) ∧ ∀ pattern ∈ group.items, pattern.Blunt

theorem span_le (group : Group) {a b more : Nat} (less : a ≤ b + more) :
    group.span a ≤ group.span b + more := by
  apply fold_le
  · intro earlier a b less
    omega
  · omega

theorem span_of_items (group : Group) {items : List Pattern}
    (less : (items.map width).sum ≤ (group.items.map width).sum) :
    ({ group with items } : Group).span 0 ≤ group.span 0 := by
  have start : 0 + (items.map width).sum ≤ 0 + (group.items.map width).sum + 0 := by omega
  apply fold_le _ _ start
  intro earlier a b less
  omega

theorem width_of_alternative (group : Group) :
    group.alternative.width = (group.items.map width).sum := by
  rw [alternative, width_of_sequence, List.map_reverse, List.sum_reverse]

theorem width_of_pattern (group : Group) : group.pattern.width = group.span 0 := by
  have joined : ∀ (earlier : List Pattern) (rest : Pattern),
      (earlier.foldl (fun rest earlier => either earlier rest) rest).width =
        earlier.foldl (fun widest earlier => max earlier.width widest) rest.width := by
    intro earlier
    induction earlier with
    | nil => exact fun _ => rfl
    | cons pattern earlier ih => exact fun rest => ih _
  rw [pattern, joined, width_of_alternative, span, Nat.zero_add]

theorem blunt_of_pattern {group : Group} (blunt : group.Blunt) : group.pattern.Blunt := by
  have joined : ∀ (earlier : List Pattern) (rest : Pattern), (∀ pattern ∈ earlier, pattern.Blunt) →
      rest.Blunt → (earlier.foldl (fun rest earlier => either earlier rest) rest).Blunt := by
    intro earlier
    induction earlier with
    | nil => exact fun _ _ blunt => blunt
    | cons pattern earlier ih =>
        intro rest others blunt
        obtain ⟨here, others⟩ := List.forall_mem_cons.mp others
        exact ih _ others ⟨here, blunt⟩
  apply joined _ _ blunt.1
  apply blunt_of_sequence
  intro item member
  exact blunt.2 item (List.mem_reverse.mp member)

theorem Blunt.push {group : Group} (blunt : group.Blunt) {item : Pattern} (here : item.Blunt) :
    (group.push item).Blunt := ⟨blunt.1, List.forall_mem_cons.mpr ⟨here, blunt.2⟩⟩

theorem span_push (group : Group) (item : Pattern) (extra : Nat) :
    (group.push item).span extra = group.span (extra + item.width) := by
  rw [span, push, span, List.map_cons, List.sum_cons, Nat.add_assoc]

end Group

/-- Neither an escape nor a number of repetitions is being read. -/
def Mode.Calm (rest : List Char) : Mode → Prop
  | .quantified => True
  | .brackets _ => True
  | mode => mode.Ready rest

namespace Reader

variable {reader next : Reader} {c : Char} {rest : List Char}

/-- The width of what has been read, with all groups closed. -/
def width (reader : Reader) : Nat :=
  reader.outer.foldl (fun inner group => group.span inner) (reader.group.span 0)

def Blunt (reader : Reader) : Prop := (∀ group ∈ reader.outer, group.Blunt) ∧ reader.group.Blunt

/-- A step leaves a reader that is as calm and blunt as before, and wider by at most one, and not at all
for an operator. -/
structure Grows (reader : Reader) (c : Char) (rest : List Char) (next : Reader) : Prop where
  calm : next.mode.Calm rest
  blunt : reader.Blunt → next.settle.Blunt
  width : next.settle.width + (if isOperator c then 1 else 0) ≤ reader.width + 1

theorem operator_le (c : Char) : (if isOperator c then 1 else 0) ≤ 1 := by
  split <;> omega

theorem grows_of_le (c : Char) (calm : next.mode.Calm rest) (blunt : reader.Blunt → next.settle.Blunt)
    (width : next.settle.width ≤ reader.width) : reader.Grows c rest next := by
  have operator := operator_le c
  exact ⟨calm, blunt, by omega⟩

theorem Blunt.push (blunt : reader.Blunt) {item : Pattern} (here : item.Blunt) :
    (reader.push item).Blunt := ⟨blunt.1, blunt.2.push here⟩

theorem width_of_push (reader : Reader) (item : Pattern) :
    (reader.push item).width ≤ reader.width + item.width := by
  apply fold_le (fun group a b => group.span_le)
  rw [push, Group.span_push]
  exact reader.group.span_le (Nat.le_refl _)

theorem push_grows {item : Pattern} (blunt : item.Blunt)
    (narrow : item.width + (if isOperator c then 1 else 0) ≤ 1) :
    reader.Grows c rest (reader.push item) := by
  refine ⟨.inl rfl, fun before => before.push blunt, ?_⟩
  have pushed := reader.width_of_push item
  change (reader.push item).width + _ ≤ _
  omega

theorem brace_grows (noCount : NoCount rest) :
    reader.Grows '{' rest { reader with mode := .braces [] } := by
  refine ⟨.inr ⟨rfl, noCount⟩, fun before => before.push trivial, ?_⟩
  exact reader.width_of_push (.one (.exactly '{'))

theorem width_le {group : Group} (less : group.span 0 ≤ reader.group.span 0) :
    Reader.width { reader with group } ≤ reader.width := by
  have none : group.span 0 ≤ reader.group.span 0 + 0 := less
  exact fold_le (fun group a b => group.span_le) _ none

theorem quantify_grows {least : Nat} {most : Option Nat} (c : Char) (few : least ≤ 1)
    (quantified : reader.quantify? least most = some next) : reader.Grows c rest next := by
  unfold quantify? at quantified
  split at quantified
  · contradiction
  · rename_i last items there
    obtain rfl := Option.some.inj quantified
    apply grows_of_le
    · trivial
    · intro before
      have blunt := before.2.2
      rw [there] at blunt
      obtain ⟨here, others⟩ := List.forall_mem_cons.mp blunt
      exact ⟨before.1, before.2.1, List.forall_mem_cons.mpr ⟨here, others⟩⟩
    · have body : least * last.width ≤ 1 * last.width := Nat.mul_le_mul_right last.width few
      have narrower : ((repeated last least most :: items).map Pattern.width).sum ≤
          (reader.group.items.map Pattern.width).sum := by
        rw [there]
        simp only [List.map_cons, List.sum_cons, Pattern.width]
        omega
      exact width_le (reader.group.span_of_items narrower)

theorem open_grows (c : Char) : reader.Grows c rest { outer := reader.group :: reader.outer } := by
  apply grows_of_le
  · exact .inl rfl
  · intro before
    exact ⟨List.forall_mem_cons.mpr ⟨before.2, before.1⟩, List.forall_mem_nil _, List.forall_mem_nil _⟩
  · exact Nat.le_refl reader.width

theorem close_grows (c : Char) {group : Group} {outer : List Group}
    (there : reader.outer = group :: outer) :
    reader.Grows c rest { outer, group := group.push reader.group.pattern } := by
  apply grows_of_le
  · exact .inl rfl
  · intro before
    have blunt := before.1
    rw [there] at blunt
    obtain ⟨here, others⟩ := List.forall_mem_cons.mp blunt
    exact ⟨others, here.push (Group.blunt_of_pattern before.2)⟩
  · have same : (Reader.width { outer, group := group.push reader.group.pattern }) = reader.width := by
      rw [Reader.width, Reader.width, there, List.foldl_cons, Group.span_push, Nat.zero_add,
        Group.width_of_pattern]
    exact Nat.le_of_eq same

theorem alternate_grows (c : Char) : reader.Grows c rest { reader with
    group := { earlier := reader.group.alternative :: reader.group.earlier }
    mode := .plain } := by
  apply grows_of_le
  · exact .inl rfl
  · intro before
    have here : reader.group.alternative.Blunt := by
      apply blunt_of_sequence
      intro item member
      exact before.2.2 item (List.mem_reverse.mp member)
    exact ⟨before.1, List.forall_mem_cons.mpr ⟨here, before.2.1⟩, List.forall_mem_nil _⟩
  · have same : (Reader.width { reader with
        group := { earlier := reader.group.alternative :: reader.group.earlier }
        mode := .plain }) = reader.width := by
      simp only [Reader.width, Group.span, List.foldl_cons, Group.width_of_alternative, List.map_nil,
        List.sum_nil, Nat.zero_add, Nat.max_zero]
    exact Nat.le_of_eq same

theorem plain_step_grows (noEscape : c ≠ '\\') (uncounted : c = '{' → NoCount rest)
    (stepped : reader.plainStep? c = some next) : reader.Grows c rest next := by
  unfold plainStep? at stepped
  split at stepped
  · obtain rfl := Option.some.inj stepped
    exact push_grows (by trivial) (by decide)
  · obtain rfl := Option.some.inj stepped
    exact push_grows (by trivial) (by decide)
  · obtain rfl := Option.some.inj stepped
    exact push_grows (by trivial) (by decide)
  · exact quantify_grows _ (by decide) stepped
  · exact quantify_grows _ (by decide) stepped
  · exact quantify_grows _ (by decide) stepped
  · obtain rfl := Option.some.inj stepped
    exact open_grows _
  · split at stepped
    · contradiction
    · rename_i there
      obtain rfl := Option.some.inj stepped
      exact close_grows _ there
  · obtain rfl := Option.some.inj stepped
    exact alternate_grows _
  · obtain rfl := Option.some.inj stepped
    exact grows_of_le _ (by trivial) id (Nat.le_refl reader.width)
  · obtain rfl := Option.some.inj stepped
    exact brace_grows (uncounted rfl)
  · contradiction
  · obtain rfl := Option.some.inj stepped
    have ordinary : isOperator c = false := by
      simp_all [isOperator, special]
    apply push_grows (by trivial)
    rw [ordinary]
    exact Nat.le_refl 1

theorem brackets_step_grows {inside : Brackets} (noEscape : c ≠ '\\')
    (stepped : reader.bracketsStep? inside c = some next) : reader.Grows c rest next := by
  -- what is between brackets adds nothing before they close
  have within : ∀ inside, reader.Grows c rest { reader with mode := .brackets inside } :=
    fun inside => grows_of_le c (by trivial) id (Nat.le_refl reader.width)
  unfold bracketsStep? at stepped
  split at stepped
  · rename_i closing
    obtain rfl := Option.some.inj stepped
    rw [closing.1]
    apply push_grows (by trivial)
    exact Nat.le_refl 1
  · split at stepped
    · obtain rfl := Option.some.inj stepped
      exact within _
    · split at stepped
      · obtain rfl := Option.some.inj stepped
        exact within _
      · obtain ⟨inside, -, rfl⟩ := Option.map_eq_some_iff.mp stepped
        exact within _

theorem step_grows (calm : reader.mode.Calm (c :: rest)) (noEscape : c ≠ '\\')
    (uncounted : c = '{' → NoCount rest) (stepped : reader.step? c = some next) :
    reader.settle.Grows c rest next := by
  cases mode : reader.mode with
  | plain =>
      have ready : reader.mode.Ready (c :: rest) := .inl mode
      rw [step_ready ready] at stepped
      exact plain_step_grows noEscape uncounted stepped
  | quantified =>
      have settles : reader.settle = reader := by rw [settle, mode]
      rw [settles]
      simp only [step?, mode] at stepped
      split at stepped
      · obtain rfl := Option.some.inj stepped
        apply grows_of_le
        · exact .inl rfl
        · exact id
        · exact Nat.le_refl reader.width
      · split at stepped
        · contradiction
        · exact plain_step_grows noEscape uncounted stepped
  | brackets inside =>
      have settles : reader.settle = reader := by rw [settle, mode]
      rw [settles]
      simp only [step?, mode] at stepped
      exact brackets_step_grows noEscape stepped
  | braces inside =>
      rw [mode] at calm
      have ready : reader.mode.Ready (c :: rest) := mode ▸ calm
      rw [step_ready ready] at stepped
      exact plain_step_grows noEscape uncounted stepped
  | escaped =>
      rw [mode] at calm
      rcases calm with plain | ⟨braces, -⟩ <;> contradiction
  | bracketsEscaped inside =>
      rw [mode] at calm
      rcases calm with plain | ⟨braces, -⟩ <;> contradiction

/-- What holds of a reader between a text and the rest of it, without escapes and numbers of
repetitions. -/
structure Narrow (reader : Reader) (text rest : List Char) : Prop where
  calm : reader.mode.Calm rest
  blunt : reader.settle.Blunt
  width : reader.settle.width + text.countP isOperator ≤ text.length

theorem Narrow.step {text : List Char} (narrow : reader.Narrow text (c :: rest))
    (noEscape : c ≠ '\\') (uncounted : c = '{' → NoCount rest)
    (stepped : reader.step? c = some next) : next.Narrow (text ++ [c]) rest := by
  have grows := step_grows narrow.calm noEscape uncounted stepped
  refine ⟨grows.calm, grows.blunt narrow.blunt, ?_⟩
  have earlier := narrow.width
  have now := grows.width
  rw [List.countP_append, List.countP_singleton, List.length_append, List.length_singleton]
  omega

theorem Narrow.run {text : List Char} (narrow : reader.Narrow text rest) (noEscape : '\\' ∉ rest)
    (uncounted : Uncounted rest) (ran : rest.foldlM step? reader = some next) :
    next.Narrow (text ++ rest) [] := by
  induction rest generalizing reader text with
  | nil =>
      obtain rfl := Option.some.inj ran
      rwa [List.append_nil]
  | cons c rest ih =>
      rw [List.mem_cons, not_or] at noEscape
      rw [List.foldlM_cons] at ran
      obtain ⟨middle, stepped, ran⟩ := Option.bind_eq_some_iff.mp ran
      have first := narrow.step (Ne.symm noEscape.1) uncounted.1 stepped
      have whole := ih first noEscape.2 uncounted.2 ran
      rwa [List.append_assoc] at whole

end Reader

/-- What is read from a text without escapes and numbers of repetitions needs no more than the
characters that are no operators. -/
theorem read_narrow {text : List Char} {pattern : Pattern} (noEscape : '\\' ∉ text)
    (uncounted : Uncounted text) (reads : read? text = some pattern) :
    pattern.Blunt ∧ pattern.width + text.countP isOperator ≤ text.length := by
  obtain ⟨reader, ran, finished⟩ := Option.bind_eq_some_iff.mp reads
  have nothing : ({} : Reader).Narrow [] text :=
    ⟨.inl rfl, ⟨List.forall_mem_nil _, List.forall_mem_nil _, List.forall_mem_nil _⟩, Nat.le_refl 0⟩
  have narrow := nothing.run noEscape uncounted ran
  have closed : reader.settle.outer = [] ∧ reader.settle.group.pattern = pattern := by
    unfold Reader.finish? at finished
    split at finished
    · rename_i outer mode
      exact ⟨outer, Option.some.inj finished⟩
    · rename_i outer mode
      exact ⟨outer, Option.some.inj finished⟩
    · contradiction
  obtain ⟨outer, rfl⟩ := closed
  refine ⟨Group.blunt_of_pattern narrow.blunt.2, ?_⟩
  have width := narrow.width
  rw [Reader.width, outer, List.foldl_nil] at width
  rwa [Group.width_of_pattern]

theorem Uncounted.concat {text : List Char} {c : Char} (uncounted : Uncounted text)
    (noCount : NoCount [c]) : Uncounted (text ++ [c]) := by
  induction text with
  | nil => exact ⟨fun _ => trivial, trivial⟩
  | cons d text ih =>
      refine ⟨fun brace => ?_, ih uncounted.2⟩
      cases text with
      | nil => exact noCount
      | cons e text => exact uncounted.1 brace

end Pattern

/-- A text with operators does not admit itself alone: what it admits at all has a match with fewer
characters. -/
theorem anchored_not_pins {entry : String} {c : Char} (noEscape : '\\' ∉ entry.toList)
    (uncounted : Pattern.Uncounted entry.toList) (member : c ∈ entry.toList)
    (operator : Pattern.isOperator c = true) : ¬ Pins ("^" ++ entry ++ "$") entry := by
  intro pins
  obtain ⟨pattern, reads, accepts⟩ := (pins entry).mpr rfl
  rw [to_list_anchored] at reads
  have whole : Pattern.Uncounted (['^'] ++ entry.toList ++ ['$']) :=
    ⟨fun brace => absurd brace (by decide), uncounted.concat (by decide)⟩
  obtain ⟨blunt, bound⟩ := Pattern.read_narrow (by simpa using noEscape) whole reads
  obtain ⟨short, acceptsShort, shorter⟩ := accepts.short blunt
  have admitted : Admits ("^" ++ entry ++ "$") (String.ofList short) :=
    ⟨pattern, by rw [to_list_anchored, reads], by simpa using acceptsShort⟩
  have same : short = entry.toList := by
    rw [← (pins _).mp admitted, String.toList_ofList]
  have operators : 0 < entry.toList.countP Pattern.isOperator :=
    List.countP_pos_iff.mpr ⟨c, member, operator⟩
  -- the anchors are operators themselves, so they do not count
  have anchors : (['^'] ++ entry.toList ++ ['$']).countP Pattern.isOperator =
      entry.toList.countP Pattern.isOperator + 2 := by
    rw [List.countP_append, List.countP_append, List.countP_singleton, List.countP_singleton,
      if_pos (by decide), if_pos (by decide)]
    omega
  rw [anchors, List.length_append, List.length_append] at bound
  rw [same] at shorter
  simp only [List.length_singleton] at bound
  omega

/-- An entry without escapes and numbers of repetitions admits itself alone, between anchors, just when
none of its characters has a meaning of its own. -/
theorem anchored_pins_iff {entry : String} (noEscape : '\\' ∉ entry.toList)
    (uncounted : Pattern.Uncounted entry.toList) :
    Pins ("^" ++ entry ++ "$") entry ↔ Pattern.IsPlain entry.toList := by
  by_cases dotted : Pattern.IsDotted entry.toList
  · rw [anchored_dotted_pins_iff dotted uncounted]
    constructor
    · exact dotted.plain
    · intro plain dot
      exact plain '.' dot (by decide)
  · constructor
    · intro pins
      rw [Pattern.IsDotted] at dotted
      push Not at dotted
      obtain ⟨c, member, special, noDot⟩ := dotted
      have operator : Pattern.isOperator c = true := by simp [Pattern.isOperator, special, noDot]
      exact absurd pins (anchored_not_pins noEscape uncounted member operator)
    · intro plain
      exact absurd plain.dotted dotted

end LaunchPolicy
