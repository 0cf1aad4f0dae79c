import LaunchPolicy.Proofs.Json.Decimal
import LaunchPolicy.Proofs.Json.Quoted
import LaunchPolicy.Proofs.Value.Path

/-!
The shape of JSON text. White space stands only around delimiters, in every layout that breaks
lines with it; the text of a value begins where the value does, and collections are their
items, joined by separators, between brackets.
-/

namespace LaunchPolicy

/-- Scalars with a JSON form of their own. -/
def Scalar.Formed : Scalar → Prop
  | .null | .bool _ | .int _ | .text _ => True
  | .float x => x.Canonical ∧ x ≠ .notANumber
  | _ => False

/-- Trees with text keys, none of them twice, whose scalars all belong to a kind, the keys among them. -/
inductive Value.Consists (kind : Scalar → Prop) : Value → Prop
  | scalar {s : Scalar} (member : kind s) : Consists kind (.scalar s)
  | list {items : List Value} (each : ∀ item ∈ items, Consists kind item) :
      Consists kind (.list items)
  | object {fields : List (Text × Value)} (distinct : (fields.map (·.1)).Nodup)
      (keys : ∀ field ∈ fields, kind (.text field.1)) (each : ∀ field ∈ fields, Consists kind field.2) :
      Consists kind (.object fields)

theorem Value.object_injective {fields others : List (Text × Value)}
    (same : object fields = object others) : fields = others := by
  refine (List.map_inj_right ?_).mp (Value.map.inj same)
  intro field other equal
  obtain ⟨key, value⟩ := Prod.mk.inj equal
  exact Prod.ext (Scalar.text.inj key) value

theorem Value.empty_consists (kind : Scalar → Prop) : (Value.map []).Consists kind :=
  @Consists.object kind [] (by simp) (by simp) (by simp)

theorem Value.Consists.weaken {kind weaker : Scalar → Prop} {v : Value} (consists : v.Consists kind)
    (weakens : ∀ s, kind s → weaker s) : v.Consists weaker := by
  induction consists with
  | scalar member => exact .scalar (weakens _ member)
  | list _ ih => exact .list ih
  | object distinct keys _ ih => exact .object distinct (fun field member => weakens _ (keys field member)) ih

/-- A tree whose scalars belong to two kinds. -/
theorem Value.Consists.and {kind other : Scalar → Prop} {v : Value} (consists : v.Consists kind)
    (too : v.Consists other) : v.Consists fun s => kind s ∧ other s := by
  induction consists with
  | scalar member =>
      cases too with
      | scalar memberToo => exact .scalar ⟨member, memberToo⟩
  | list _ ih =>
      cases too with
      | list each => exact .list fun item member => ih item member (each item member)
  | @object fields distinct keys _ ih =>
      generalize form : Value.object fields = v at too
      cases too with
      | object _ keysToo each =>
          obtain rfl := object_injective form
          exact .object distinct (fun field member => ⟨keys field member, keysToo field member⟩)
            fun field member => ih field member (each field member)
      | scalar _ => exact absurd form (by simp [Value.object])
      | list _ => exact absurd form (by simp [Value.object])

namespace Value

variable {kind : Scalar → Prop} {fields : Fields}

theorem consists_scalar_iff (s : Scalar) : (Value.scalar s).Consists kind ↔ kind s := by
  constructor
  · intro consists
    cases consists with
    | scalar member => exact member
  · exact .scalar

theorem consists_list_iff (items : List Value) :
    (Value.list items).Consists kind ↔ ∀ item ∈ items, item.Consists kind := by
  constructor
  · intro consists
    cases consists with
    | list each => exact each
  · exact .list

theorem consists_texts_iff (items : List Text) :
    (Value.texts items).Consists kind ↔ ∀ item ∈ items, kind (.text item) := by
  rw [Value.texts, consists_list_iff, List.forall_mem_map]
  simp only [consists_scalar_iff]

theorem consists_object_iff (fields : List (Text × Value)) :
    (object fields).Consists kind ↔
      (fields.map (·.1)).Nodup ∧ ∀ field ∈ fields, kind (.text field.1) ∧ field.2.Consists kind := by
  constructor
  · intro consists
    generalize form : object fields = v at consists
    cases consists with
    | object distinct keys each =>
        obtain rfl := object_injective form
        exact ⟨distinct, fun field member => ⟨keys field member, each field member⟩⟩
    | scalar _ => exact absurd form (by simp [object])
    | list _ => exact absurd form (by simp [object])
  · rintro ⟨distinct, each⟩
    exact .object distinct (fun field member => (each field member).1) fun field member => (each field member).2

theorem Consists.named (consists : (Value.map fields).Consists kind) :
    ∃ named : List (Text × Value), Value.map fields = .object named ∧ (named.map (·.1)).Nodup ∧
      ∀ field ∈ named, kind (.text field.1) ∧ field.2.Consists kind := by
  generalize form : Value.map fields = v at consists
  cases consists with
  | scalar _ => contradiction
  | list _ => contradiction
  | object distinct keys each =>
      exact ⟨_, rfl, distinct, fun field member => ⟨keys field member, each field member⟩⟩

/-- The keys of a tree's mapping are texts. -/
theorem Consists.keys (consists : (Value.map fields).Consists kind) :
    ∃ names : List Text, fields.map Prod.fst = names.map .text := by
  obtain ⟨named, form, -⟩ := consists.named
  obtain rfl := Value.map.inj form
  exact ⟨named.map (·.1), by simp [Function.comp_def]⟩

theorem Consists.get (consists : (Value.map fields).Consists kind) {key : Scalar} {v : Value}
    (found : fields.get? key = some v) : v.Consists kind := by
  obtain ⟨named, form, -, each⟩ := consists.named
  obtain rfl := Value.map.inj form
  obtain ⟨known, member⟩ := Fields.mem_of_get found
  obtain ⟨field, within, same⟩ := List.mem_map.mp member
  exact (Prod.mk.inj same).2 ▸ (each field within).2

end Value

namespace Json

/-- Layouts that put nothing but white space between the items of a text. -/
def Layout.IsBlank : Layout → Prop
  | .compact => True
  | .indented unit => ∀ c ∈ unit, isSpace c = true

theorem spaces_is_blank (count : Nat) : (Layout.spaces count).IsBlank := by
  intro c member
  rw [List.eq_of_mem_replicate member]
  rfl

theorem line_break_is_blank {layout : Layout} (blank : layout.IsBlank) (level : Nat) :
    ∀ c ∈ layout.lineBreak level, isSpace c = true := by
  cases layout with
  | compact => simp [Layout.lineBreak]
  | indented unit =>
      intro c member
      simp only [Layout.lineBreak, List.mem_cons, List.mem_flatten, List.mem_replicate] at member
      rcases member with rfl | ⟨_, ⟨_, rfl⟩, inside⟩
      · rfl
      · exact blank c inside

/-- A separator is a comma before white space. -/
theorem separator_form {layout : Layout} (blank : layout.IsBlank) (level : Nat) :
    ∃ gap, layout.separator level = ',' :: gap ∧ ∀ c ∈ gap, isSpace c = true := by
  cases layout with
  | compact => exact ⟨[' '], rfl, by simp [isSpace]⟩
  | indented unit => exact ⟨_, rfl, line_break_is_blank blank level⟩

theorem skip_space_blank {gap : List Char} (blank : ∀ c ∈ gap, isSpace c = true) {c : Char}
    (visible : isSpace c = false) (rest : List Char) :
    skipSpace (gap ++ c :: rest) = c :: rest := by
  rw [skipSpace, List.dropWhile_append_of_pos blank, List.dropWhile_cons_of_neg (by simp [visible])]

theorem skip_space_visible {c : Char} (visible : isSpace c = false) (rest : List Char) :
    skipSpace (c :: rest) = c :: rest := by
  rw [skipSpace, List.dropWhile_cons_of_neg (by simp [visible])]

/-- After white space and a delimiter, or a delimiter at once, a number has ended. -/
theorem delimited_blank {gap : List Char} (blank : ∀ c ∈ gap, isSpace c = true) {c : Char}
    (delimiter : isDelimiter c = true) (rest : List Char) : Delimited (gap ++ c :: rest) := by
  cases gap with
  | nil => exact delimited_cons rest delimiter
  | cons first gap =>
      have space := blank first (by simp)
      exact delimited_cons _ (by simp [isDelimiter, space])

theorem render_items_eq_map (layout : Layout) (level : Nat) (items : List Value) :
    renderItems layout level items = items.map (renderAt layout level) := by
  induction items with
  | nil => rfl
  | cons item items ih => rw [renderItems, ih, List.map_cons]

def renderField (layout : Layout) (level : Nat) (field : Text × Value) : List Char :=
  quote field.1 ++ ':' :: ' ' :: renderAt layout level field.2

theorem render_fields_eq_map (layout : Layout) (level : Nat) (fields : List (Text × Value)) :
    renderFields layout level (fields.map fun field => (.text field.1, field.2)) =
      fields.map (renderField layout level) := by
  induction fields with
  | nil => rfl
  | cons field fields ih =>
      rw [List.map_cons, renderFields, ih, List.map_cons]
      rfl

/-- The items of a text between its brackets. -/
def joined (layout : Layout) (level : Nat) (items : List (List Char)) : List Char :=
  (items.intersperse (layout.separator level)).flatten

theorem joined_single (layout : Layout) (level : Nat) (item : List Char) :
    joined layout level [item] = item := by simp [joined]

theorem joined_cons (layout : Layout) (level : Nat) (item next : List Char)
    (items : List (List Char)) :
    joined layout level (item :: next :: items) =
      item ++ (layout.separator level ++ joined layout level (next :: items)) := by
  simp [joined]

theorem length_joined_cons {layout : Layout} (blank : layout.IsBlank) (level : Nat)
    (item next : List Char) (items : List (List Char)) :
    item.length + (joined layout level (next :: items)).length <
      (joined layout level (item :: next :: items)).length := by
  obtain ⟨gap, separator, -⟩ := separator_form blank level
  simp only [joined_cons, separator, List.length_append, List.length_cons]
  omega

theorem length_le_joined (layout : Layout) (level : Nat) (item : List Char)
    (items : List (List Char)) : item.length ≤ (joined layout level (item :: items)).length := by
  cases items with
  | nil => exact Nat.le_of_eq (by rw [joined_single])
  | cons next items =>
      rw [joined_cons, List.length_append]
      exact Nat.le_add_right _ _

theorem bracket_cons (layout : Layout) (level : Nat) (opening closing : Char) (item : List Char)
    (items : List (List Char)) (rest : List Char) :
    bracket layout level opening closing (item :: items) ++ rest =
      opening :: (layout.lineBreak (level + 1) ++ (joined layout (level + 1) (item :: items) ++
        (layout.lineBreak level ++ closing :: rest))) := by
  simp [bracket, joined]

theorem length_bracket (layout : Layout) (level : Nat) (opening closing : Char) (item : List Char)
    (items : List (List Char)) :
    (joined layout (level + 1) (item :: items)).length + 2 ≤
      (bracket layout level opening closing (item :: items)).length := by
  have shape := congrArg List.length (bracket_cons layout level opening closing item items [])
  simp only [List.append_nil, List.length_cons, List.length_append, List.length_nil] at shape
  omega

/-- A text that begins with a character which neither is white space nor closes a list. -/
def BeginsValue (cs : List Char) : Prop := ∃ c rest, cs = c :: rest ∧ isSpace c = false ∧ c ≠ ']'

theorem begins_value_cons {c : Char} (rest : List Char) (visible : isSpace c = false)
    (open_ : c ≠ ']') : BeginsValue (c :: rest) := ⟨c, rest, rfl, visible, open_⟩

theorem begins_value_append {cs : List Char} (begins : BeginsValue cs) (rest : List Char) :
    BeginsValue (cs ++ rest) := by
  obtain ⟨c, tail, rfl, visible, open_⟩ := begins
  exact begins_value_cons (tail ++ rest) visible open_

theorem skip_space_begins {cs : List Char} (begins : BeginsValue cs) : skipSpace cs = cs := by
  obtain ⟨c, rest, rfl, visible, -⟩ := begins
  exact skip_space_visible visible rest

theorem skip_space_before {gap cs : List Char} (blank : ∀ c ∈ gap, isSpace c = true)
    (begins : BeginsValue cs) : skipSpace (gap ++ cs) = cs := by
  obtain ⟨c, rest, rfl, visible, -⟩ := begins
  exact skip_space_blank blank visible rest

theorem begins_value_digit {c : Char} (rest : List Char) (digit : c.isDigit = true) :
    BeginsValue (c :: rest) := by
  have visible := digit_not_delimiter digit
  simp only [isDelimiter, Bool.or_eq_false_iff, decide_eq_false_iff_not] at visible
  exact begins_value_cons rest visible.1.1.1 visible.1.2

theorem render_scalar_begins {s : Scalar} (formed : s.Formed) : BeginsValue (renderScalar s) := by
  cases s with
  | null => exact begins_value_cons _ rfl (by decide)
  | bool b => cases b <;> exact begins_value_cons _ rfl (by decide)
  | int n =>
      rw [renderScalar, int_text]
      split
      · exact begins_value_cons _ rfl (by decide)
      · obtain ⟨first, others, digits, digit⟩ := to_digits_begins n.natAbs
        rw [digits]
        exact begins_value_digit others digit
  | text s => exact begins_value_cons _ rfl (by decide)
  | float x =>
      obtain ⟨first, others, text, digit | rfl | rfl⟩ := float_text_begins formed.1 formed.2
      · rw [renderScalar, text]
        exact begins_value_digit others digit
      · rw [renderScalar, text]
        exact begins_value_cons _ rfl (by decide)
      · rw [renderScalar, text]
        exact begins_value_cons _ rfl (by decide)
  | bytes octets => exact formed.elim
  | date d => exact formed.elim
  | moment m => exact formed.elim

theorem render_at_begins (layout : Layout) (level : Nat) {v : Value}
    (formed : v.Consists Scalar.Formed) : BeginsValue (renderAt layout level v) := by
  cases formed with
  | scalar formed => exact render_scalar_begins formed
  | @list items each =>
      cases items with
      | nil => exact begins_value_cons _ rfl (by decide)
      | cons item items => exact begins_value_cons _ rfl (by decide)
  | @object fields distinct keys each =>
      cases fields with
      | nil => exact begins_value_cons _ rfl (by decide)
      | cons field fields => exact begins_value_cons _ rfl (by decide)

theorem joined_begins (layout : Layout) (level : Nat) {item : List Char} (items : List (List Char))
    (begins : BeginsValue item) : BeginsValue (joined layout level (item :: items)) := by
  cases items with
  | nil => rwa [joined_single]
  | cons next items =>
      rw [joined_cons]
      exact begins_value_append begins _

theorem render_field_begins (layout : Layout) (level : Nat) (field : Text × Value) :
    BeginsValue (renderField layout level field) := begins_value_cons _ rfl (by decide)

end Json

end LaunchPolicy
