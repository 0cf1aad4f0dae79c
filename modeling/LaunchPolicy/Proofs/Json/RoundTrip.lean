import LaunchPolicy.Proofs.Json.Reading
import LaunchPolicy.Proofs.Value.Depth

/-!
Values written as JSON text are read back, in every layout that breaks lines with white space,
when all their integers have numerals that are read and there is room for all their levels. A numeral that
is too long to be read is not written either.
-/

namespace LaunchPolicy.Json

/-- Scalars that are written: those with a form of their own, integers as far as numerals go. -/
def Writable : Scalar → Prop
  | .int n => HasNumeral n
  | s => s.Formed

@[simp] theorem writable_null : Writable .null := trivial

@[simp] theorem writable_bool (b : Bool) : Writable (.bool b) := trivial

@[simp] theorem writable_int (n : Int) : Writable (.int n) ↔ HasNumeral n := Iff.rfl

@[simp] theorem writable_text (t : Text) : Writable (.text t) := trivial

/-- Scalars none of whose texts has halves that stand like a pair. -/
def Unjoined : Scalar → Prop
  | .text t => Apart t.points
  | _ => True

/-- Scalars that are read back from what is written of them. -/
def Legible (s : Scalar) : Prop := Writable s ∧ Unjoined s

theorem writable_formed (s : Scalar) (writable : Writable s) : s.Formed := by
  cases s <;> first | exact writable | trivial

theorem legible_formed (s : Scalar) (legible : Legible s) : s.Formed := writable_formed s legible.1

@[simp] theorem unjoined_bool (b : Bool) : Unjoined (.bool b) := trivial

@[simp] theorem unjoined_int (n : Int) : Unjoined (.int n) := trivial

theorem string_apart (s : String) : Apart (Text.string s).points := by
  refine List.isChain_iff_forall_rel_of_append_cons_cons.mpr fun {first second _ _} whole => ?_
  have member : first ∈ (Text.string s).points := whole ▸ by simp
  obtain ⟨c, -, rfl⟩ := List.mem_map.mp member
  rfl

@[simp] theorem unjoined_string (s : String) : Unjoined (.text s) := string_apart s

theorem read_unjoined (s : Scalar) (isRead : s.IsRead) : Unjoined s := by
  cases s <;> first | exact isRead | trivial

theorem string_legible (s : String) : Legible (.text s) := ⟨trivial, string_apart s⟩

/-- With room for its levels and fuel for its text, a value is read from it, whatever follows. -/
def ReadsBack (layout : Layout) (level room : Nat) (v : Value) : Prop :=
  ∀ fuel rest, Delimited rest → 2 * (renderAt layout level v).length ≤ fuel →
    readValue room fuel (renderAt layout level v ++ rest) = .ok (v, rest)

theorem read_value_scalar (room fuel : Nat) {s : Scalar} (legible : Legible s) {rest : List Char}
    (delimited : Delimited rest) :
    readValue room (fuel + 1) (renderScalar s ++ rest) = .ok (.scalar s, rest) := by
  cases s with
  | null => rfl
  | bool b => cases b <;> rfl
  | int n =>
      rw [renderScalar, read_value_int room fuel n delimited]
      exact if_pos legible.1
  | text s =>
      simp only [renderScalar, quote, List.append_assoc, List.cons_append, List.nil_append,
        readValue]
      rw [read_text_quoted legible.2]
      simp [bind, Except.bind, pure, Except.pure]
  | float x => exact read_value_float room fuel legible.1.1 legible.1.2 delimited
  | bytes octets => exact legible.1.elim
  | date d => exact legible.1.elim
  | moment m => exact legible.1.elim

theorem read_items_cons {layout : Layout} (blank : layout.IsBlank) (level closing room fuel : Nat)
    {item next : Value} (items : List Value) (formed : next.Consists Scalar.Formed)
    (head : ∀ after, Delimited after →
      readValue room fuel (renderAt layout level item ++ after) = .ok (item, after)) (rest : List Char) :
    readItems room (fuel + 1) (joined layout level ((item :: next :: items).map (renderAt layout level)) ++
      (layout.lineBreak closing ++ ']' :: rest)) =
        (readItems room fuel (joined layout level ((next :: items).map (renderAt layout level)) ++
          (layout.lineBreak closing ++ ']' :: rest))).map fun r => (item :: r.1, r.2) := by
  obtain ⟨gap, separator, blankGap⟩ := separator_form blank level
  have begins := begins_value_append (joined_begins layout level
    (items.map (renderAt layout level)) (render_at_begins layout level formed))
      (layout.lineBreak closing ++ ']' :: rest)
  simp only [List.map_cons, joined_cons layout level (renderAt layout level item), separator,
    List.append_assoc, List.cons_append]
  rw [readItems, head _ (delimited_cons _ (by decide))]
  simp only [bind, Except.bind, skip_space_visible (by decide : isSpace ',' = false),
    skip_space_before blankGap begins]
  cases readItems room fuel (joined layout level (renderAt layout level next ::
    items.map (renderAt layout level)) ++ (layout.lineBreak closing ++ ']' :: rest)) <;> rfl

theorem read_items_last {layout : Layout} (blank : layout.IsBlank) (level closing room fuel : Nat)
    {item : Value} (head : ∀ after, Delimited after →
      readValue room fuel (renderAt layout level item ++ after) = .ok (item, after)) (rest : List Char) :
    readItems room (fuel + 1) (joined layout level ([item].map (renderAt layout level)) ++
      (layout.lineBreak closing ++ ']' :: rest)) = .ok ([item], rest) := by
  have last := delimited_blank (line_break_is_blank blank closing)
    (by decide : isDelimiter ']' = true) rest
  rw [List.map_cons, List.map_nil, joined_single, readItems, head _ last]
  simp only [bind, Except.bind,
    skip_space_blank (line_break_is_blank blank closing) (by decide : isSpace ']' = false)]
  rfl

/-- Items are read up to the closing bracket when each of them is read back. The fuel is bounded
by the text: two steps, one for the item and one for the list, go with each character. -/
theorem read_items_joined {layout : Layout} (blank : layout.IsBlank) (level closing room : Nat)
    {items : List Value} (nonempty : items ≠ [])
    (formed : ∀ item ∈ items, item.Consists Scalar.Formed)
    (roundTrip : ∀ item ∈ items, ReadsBack layout level room item)
    (fuel : Nat) (rest : List Char)
    (enough : 2 * (joined layout level (items.map (renderAt layout level))).length < fuel) :
    readItems room fuel (joined layout level (items.map (renderAt layout level)) ++
      (layout.lineBreak closing ++ ']' :: rest)) = .ok (items, rest) := by
  induction items generalizing fuel with
  | nil => exact absurd rfl nonempty
  | cons item items ih =>
      obtain ⟨fuel, rfl⟩ := Nat.exists_eq_add_one.mpr (Nat.zero_lt_of_lt enough)
      have size := length_le_joined layout level (renderAt layout level item)
        (items.map (renderAt layout level))
      rw [List.map_cons] at enough
      have head := fun after delimited => roundTrip item (by simp) fuel after delimited (by omega)
      cases items with
      | nil => exact read_items_last blank level closing room fuel head rest
      | cons next items =>
          rw [List.map_cons] at enough
          have shrinks := length_joined_cons blank level (renderAt layout level item)
            (renderAt layout level next) (items.map (renderAt layout level))
          rw [read_items_cons blank level closing room fuel items (formed next (by simp)) head,
            ih (by simp) (fun v member => formed v (List.mem_cons_of_mem _ member))
              (fun v member => roundTrip v (List.mem_cons_of_mem _ member)) fuel
                (by rw [List.map_cons]; omega)]
          rfl

theorem read_value_list {layout : Layout} (blank : layout.IsBlank) (level room fuel : Nat)
    {items : List Value} (nonempty : items ≠ [])
    (formed : ∀ item ∈ items, item.Consists Scalar.Formed) (rest : List Char)
    (enough : 2 * (renderAt layout level (.list items)).length ≤ fuel) :
    ∃ fewer, 2 * (joined layout (level + 1) (items.map (renderAt layout (level + 1)))).length <
        fewer ∧
      readValue (room + 1) fuel (renderAt layout level (.list items) ++ rest) =
        (readItems room fewer (joined layout (level + 1) (items.map (renderAt layout (level + 1))) ++
          (layout.lineBreak level ++ ']' :: rest))).map fun r => (.list r.1, r.2) := by
  cases items with
  | nil => exact absurd rfl nonempty
  | cons item items =>
      rw [renderAt, render_items_eq_map, List.map_cons] at enough ⊢
      have size := length_bracket layout level '[' ']' (renderAt layout (level + 1) item)
        (items.map (renderAt layout (level + 1)))
      obtain ⟨fuel, rfl⟩ := Nat.exists_eq_add_one.mpr (by omega : 0 < fuel)
      have begins := begins_value_append (joined_begins layout (level + 1)
        (items.map (renderAt layout (level + 1))) (render_at_begins layout (level + 1)
          (formed item (by simp)))) (layout.lineBreak level ++ ']' :: rest)
      refine ⟨fuel, by omega, ?_⟩
      rw [bracket_cons, readValue, deeper,
        skip_space_before (line_break_is_blank blank (level + 1)) begins]
      obtain ⟨c, cs, text, -, open_⟩ := begins
      rw [text]
      split
      · rename_i same
        exact absurd (List.cons.inj same).1 open_
      · cases readItems room fuel (c :: cs) <;> rfl

/-- After the colon of a field comes one space and then its value. -/
theorem skip_to_value (layout : Layout) (level : Nat) {v : Value} (formed : v.Consists Scalar.Formed)
    (rest : List Char) :
    skipSpace (' ' :: (renderAt layout level v ++ rest)) = renderAt layout level v ++ rest := by
  have space : ∀ c ∈ [' '], isSpace c = true := by simp [isSpace]
  exact skip_space_before space (begins_value_append (render_at_begins layout level formed) rest)

/-- How fields are read on after the value of one of them. -/
def readAfterField (room fuel : Nat) (key : Text) (read : Value × List Char) :
    Except Fault (List (Text × Value) × List Char) :=
  match skipSpace read.2 with
  | ',' :: more => do
      let (fields, after) ← readFields room fuel (skipSpace more)
      return ((key, read.1) :: fields, after)
  | '\x7d' :: after => return ([(key, read.1)], after)
  | _ => .error .notJson

theorem read_fields_value {layout : Layout} {level room fuel : Nat} {field : Text × Value}
    (apart : Apart field.1.points) (formed : field.2.Consists Scalar.Formed) (rest : List Char) :
    readFields room (fuel + 1) (renderField layout level field ++ rest) =
      (readValue room fuel (renderAt layout level field.2 ++ rest)).bind (readAfterField room fuel field.1) := by
  simp only [renderField, quote, List.cons_append, List.append_assoc, List.nil_append]
  rw [readFields.eq_2, read_text_quoted apart]
  simp only [bind, Except.bind]
  rw [skip_space_visible (by decide)]
  simp only [skip_to_value layout level formed, Text.of_points_points]
  cases readValue room fuel (renderAt layout level field.2 ++ rest) <;> rfl

theorem read_fields_cons {layout : Layout} (blank : layout.IsBlank) (level closing room fuel : Nat)
    {field : Text × Value} (next : Text × Value) (fields : List (Text × Value))
    (apart : Apart field.1.points) (formed : field.2.Consists Scalar.Formed)
    (head : ∀ after, Delimited after →
      readValue room fuel (renderAt layout level field.2 ++ after) = .ok (field.2, after))
    (rest : List Char) :
    readFields room (fuel + 1) (joined layout level ((field :: next :: fields).map
      (renderField layout level)) ++ (layout.lineBreak closing ++ '\x7d' :: rest)) =
        (readFields room fuel (joined layout level ((next :: fields).map (renderField layout level)) ++
          (layout.lineBreak closing ++ '\x7d' :: rest))).map fun r => (field :: r.1, r.2) := by
  obtain ⟨gap, separator, blankGap⟩ := separator_form blank level
  have begins := begins_value_append (joined_begins layout level
    (fields.map (renderField layout level)) (render_field_begins layout level next))
      (layout.lineBreak closing ++ '\x7d' :: rest)
  simp only [List.map_cons, joined_cons layout level (renderField layout level field), separator,
    List.append_assoc, List.cons_append]
  rw [read_fields_value apart formed, head _ (delimited_cons _ (by decide))]
  simp only [readAfterField, bind, Except.bind, skip_space_visible (by decide : isSpace ',' = false),
    skip_space_before blankGap begins]
  cases readFields room fuel (joined layout level (renderField layout level next ::
    fields.map (renderField layout level)) ++ (layout.lineBreak closing ++ '\x7d' :: rest)) <;> rfl

theorem read_fields_last {layout : Layout} (blank : layout.IsBlank) (level closing room fuel : Nat)
    {field : Text × Value} (apart : Apart field.1.points) (formed : field.2.Consists Scalar.Formed)
    (head : ∀ after, Delimited after →
      readValue room fuel (renderAt layout level field.2 ++ after) = .ok (field.2, after))
    (rest : List Char) :
    readFields room (fuel + 1) (joined layout level ([field].map (renderField layout level)) ++
      (layout.lineBreak closing ++ '\x7d' :: rest)) = .ok ([field], rest) := by
  have last := delimited_blank (line_break_is_blank blank closing)
    (by decide : isDelimiter '\x7d' = true) rest
  rw [List.map_cons, List.map_nil, joined_single, read_fields_value apart formed, head _ last]
  simp only [readAfterField, Except.bind,
    skip_space_blank (line_break_is_blank blank closing) (by decide : isSpace '\x7d' = false)]
  rfl

theorem length_render_field (layout : Layout) (level : Nat) (field : Text × Value) :
    (renderAt layout level field.2).length ≤ (renderField layout level field).length := by
  simp only [renderField, List.length_append, List.length_cons]
  omega

/-- Fields are read up to the closing brace when each of their values is read back. -/
theorem read_fields_joined {layout : Layout} (blank : layout.IsBlank) (level closing room : Nat)
    {fields : List (Text × Value)} (nonempty : fields ≠ [])
    (apart : ∀ field ∈ fields, Apart field.1.points) (formed : ∀ field ∈ fields, field.2.Consists Scalar.Formed)
    (roundTrip : ∀ field ∈ fields, ReadsBack layout level room field.2)
    (fuel : Nat) (rest : List Char)
    (enough : 2 * (joined layout level (fields.map (renderField layout level))).length < fuel) :
    readFields room fuel (joined layout level (fields.map (renderField layout level)) ++
      (layout.lineBreak closing ++ '\x7d' :: rest)) = .ok (fields, rest) := by
  induction fields generalizing fuel with
  | nil => exact absurd rfl nonempty
  | cons field fields ih =>
      obtain ⟨fuel, rfl⟩ := Nat.exists_eq_add_one.mpr (Nat.zero_lt_of_lt enough)
      have inside := length_render_field layout level field
      have size := length_le_joined layout level (renderField layout level field)
        (fields.map (renderField layout level))
      rw [List.map_cons] at enough
      have head := fun after delimited => roundTrip field (by simp) fuel after delimited (by omega)
      cases fields with
      | nil =>
          exact read_fields_last blank level closing room fuel (apart field (by simp)) (formed field (by simp))
            head rest
      | cons next fields =>
          rw [List.map_cons] at enough
          have shrinks := length_joined_cons blank level (renderField layout level field)
            (renderField layout level next) (fields.map (renderField layout level))
          rw [read_fields_cons blank level closing room fuel next fields (apart field (by simp))
              (formed field (by simp)) head,
            ih (by simp) (fun f member => apart f (List.mem_cons_of_mem _ member))
              (fun f member => formed f (List.mem_cons_of_mem _ member))
              (fun f member => roundTrip f (List.mem_cons_of_mem _ member)) fuel
                (by rw [List.map_cons]; omega)]
          rfl

theorem read_value_object {layout : Layout} (blank : layout.IsBlank) (level room fuel : Nat)
    {fields : List (Text × Value)} (nonempty : fields ≠ []) (rest : List Char)
    (enough : 2 * (renderAt layout level (.object fields)).length ≤ fuel) :
    ∃ fewer, 2 * (joined layout (level + 1) (fields.map (renderField layout (level + 1)))).length <
        fewer ∧
      readValue (room + 1) fuel (renderAt layout level (.object fields) ++ rest) =
        (readFields room fewer (joined layout (level + 1) (fields.map (renderField layout (level + 1))) ++
          (layout.lineBreak level ++ '\x7d' :: rest))).map
            fun r => (.map (distinctFields r.1), r.2) := by
  cases fields with
  | nil => exact absurd rfl nonempty
  | cons field fields =>
      rw [Value.object, renderAt, render_fields_eq_map, List.map_cons] at enough ⊢
      have size := length_bracket layout level '\x7b' '\x7d' (renderField layout (level + 1) field)
        (fields.map (renderField layout (level + 1)))
      obtain ⟨fuel, rfl⟩ := Nat.exists_eq_add_one.mpr (by omega : 0 < fuel)
      obtain ⟨tail, text⟩ : ∃ tail, joined layout (level + 1) (renderField layout (level + 1) field ::
          fields.map (renderField layout (level + 1))) ++
            (layout.lineBreak level ++ '\x7d' :: rest) = '"' :: tail := by
        cases fields with
        | nil => exact ⟨_, by rw [List.map_nil, joined_single]; rfl⟩
        | cons next fields => exact ⟨_, by rw [List.map_cons, joined_cons]; rfl⟩
      refine ⟨fuel, by omega, ?_⟩
      rw [bracket_cons, readValue, deeper, text,
        skip_space_blank (line_break_is_blank blank (level + 1)) (by decide)]
      split
      · rename_i same
        exact absurd (List.cons.inj same).1 (by decide)
      · cases readFields room fuel ('"' :: tail) <;> rfl

theorem put_new {fields : List (Text × Value)} {key : Text} (value : Value)
    (new : key ∉ fields.map (·.1)) :
    Fields.put (fields.map fun field => (.text field.1, field.2)) (.text key) value =
      (fields ++ [(key, value)]).map fun field => (.text field.1, field.2) := by
  induction fields with
  | nil => rfl
  | cons field fields ih =>
      simp only [List.map_cons, List.mem_cons, not_or] at new
      simp only [List.map_cons, Fields.put, Scalar.same_key_text, List.cons_append,
        Ne.symm new.1, decide_false, Bool.false_eq_true, if_false, ih new.2]

/-- Fields without a repeated key are all kept, in their order. -/
theorem distinct_fields_of_nodup (fields : List (Text × Value))
    (distinct : (fields.map (·.1)).Nodup) :
    distinctFields fields = fields.map fun field => (.text field.1, field.2) := by
  suffices general : ∀ known : List (Text × Value), ((known ++ fields).map (·.1)).Nodup →
      fields.foldl (fun known field => Fields.put known (.text field.1) field.2)
        (known.map fun field => (Scalar.text field.1, field.2)) =
          (known ++ fields).map fun field => (.text field.1, field.2) from general [] distinct
  induction fields with
  | nil => simp
  | cons field fields ih =>
      intro known nodup
      have new : field.1 ∉ known.map (·.1) := by
        rw [List.map_append, List.map_cons, List.nodup_append] at nodup
        exact fun member => nodup.2.2 _ member _ (by simp) rfl
      have rest := ih ((List.nodup_cons.mp (by simpa using distinct)).2) (known ++ [field])
        (by simpa using nodup)
      rw [List.foldl_cons, put_new field.2 new, rest]
      simp

/-- A text of legible scalars is read back where there is room for its levels; the fuel is two steps for
each of its characters. -/
theorem read_value_legible {layout : Layout} (blank : layout.IsBlank) {v : Value}
    (legible : v.Consists Legible) {room : Nat} (deep : v.depth ≤ room) (level : Nat) :
    ReadsBack layout level room v := by
  induction legible generalizing level room with
  | @scalar s member =>
      intro fuel rest delimited enough
      obtain ⟨c, cs, text, -⟩ := render_scalar_begins (legible_formed s member)
      rw [renderAt, text, List.length_cons] at enough
      obtain ⟨fuel, rfl⟩ := Nat.exists_eq_add_one.mpr (by omega : 0 < fuel)
      exact read_value_scalar room fuel member delimited
  | @list items each ih =>
      intro fuel rest delimited enough
      obtain ⟨below, rfl, levels⟩ := Value.list_depth_le_iff.mp deep
      by_cases nonempty : items = []
      · subst nonempty
        obtain ⟨fuel, rfl⟩ := Nat.exists_eq_add_one.mpr
          (Nat.lt_of_lt_of_le (by decide : 0 < 4) enough)
        rfl
      · have formed := fun v member => (each v member).weaken legible_formed
        obtain ⟨fewer, left, read⟩ := read_value_list blank level below fuel nonempty formed rest enough
        rw [read, read_items_joined blank (level + 1) level below nonempty formed
          (fun v member => ih v member (levels v member) (level + 1)) fewer rest left]
        rfl
  | @object fields distinct keys each ih =>
      intro fuel rest delimited enough
      obtain ⟨below, rfl, levels⟩ := Value.object_depth_le_iff.mp deep
      by_cases nonempty : fields = []
      · subst nonempty
        obtain ⟨fuel, rfl⟩ := Nat.exists_eq_add_one.mpr
          (Nat.lt_of_lt_of_le (by decide : 0 < 4) enough)
        rfl
      · have formed := fun f member => (each f member).weaken legible_formed
        obtain ⟨fewer, left, read⟩ := read_value_object blank level below fuel nonempty rest enough
        rw [read, read_fields_joined blank (level + 1) level below nonempty
          (fun f member => (keys f member).2) formed
          (fun f member => ih f member (levels f member) (level + 1)) fewer rest left]
        simp only [Except.map, distinct_fields_of_nodup fields distinct]
        rfl

theorem read_render_value (room : Nat) (layout : Layout) {v : Value} (formed : v.Consists Scalar.Formed) :
    read room (render layout v) =
      (readValue room (2 * (renderAt layout 0 v).length + 2) (renderAt layout 0 v)).bind fun r =>
        if (skipSpace r.2).isEmpty then .ok r.1 else .error .notJson := by
  rw [read, render, String.toList_ofList]
  rw [skip_space_begins (render_at_begins layout 0 formed)]
  rfl

theorem read_render {layout : Layout} (blank : layout.IsBlank) {v : Value} (legible : v.Consists Legible)
    {room : Nat} (deep : v.depth ≤ room) : read room (render layout v) = .ok v := by
  have whole := read_value_legible blank legible deep 0 _ [] delimited_nil (Nat.le_add_right _ 2)
  rw [List.append_nil] at whole
  rw [read_render_value room layout (legible.weaken legible_formed), whole]
  rfl

/-! Which values are written at all -/

theorem scalar_fault_eq {s : Scalar} (formed : s.Formed) :
    Writable s ∧ scalarFault? s = none ∨ ¬ Writable s ∧ scalarFault? s = some .badValue := by
  cases s with
  | int n =>
      by_cases numeral : HasNumeral n
      · exact .inl ⟨numeral, if_pos (decide_eq_true numeral)⟩
      · exact .inr ⟨numeral, if_neg (mt of_decide_eq_true numeral)⟩
  | float x => exact .inl ⟨formed, rfl⟩
  | null => exact .inl ⟨trivial, rfl⟩
  | bool b => exact .inl ⟨trivial, rfl⟩
  | text s => exact .inl ⟨trivial, rfl⟩
  | _ => exact formed.elim

/-- Whether and why something is not written: an integer is too long, or it is too deep. -/
inductive Decided (writable deep : Prop) : Option Fault → Prop
  | written (isWritable : writable) (isDeep : deep) : Decided writable deep none
  | long (unwritable : ¬ writable) : Decided writable deep (some .badValue)
  | deeper (tooDeep : ¬ deep) : Decided writable deep (some .tooDeep)

theorem Decided.imp {writable deep other room : Prop} {fault : Option Fault}
    (decided : Decided writable deep fault) (same : writable ↔ other) (level : deep ↔ room) :
    Decided other room fault := propext same ▸ propext level ▸ decided

theorem Decided.and {writable deep others below : Prop} {fault next : Option Fault}
    (first : Decided writable deep fault) (rest : Decided others below next) :
    Decided (writable ∧ others) (deep ∧ below) (fault <|> next) := by
  cases first with
  | long unwritable => exact .long fun both => unwritable both.1
  | deeper tooDeep => exact .deeper fun both => tooDeep both.1
  | written isWritable isDeep =>
      cases rest with
      | written othersWritable othersDeep => exact .written ⟨isWritable, othersWritable⟩ ⟨isDeep, othersDeep⟩
      | long unwritable => exact .long fun both => unwritable both.2
      | deeper tooDeep => exact .deeper fun both => tooDeep both.2

theorem items_fault_decided {items : List Value} {room : Nat}
    (each : ∀ item ∈ items, Decided (item.Consists Writable) (item.depth ≤ room) (refusal.fault? room item)) :
    Decided (∀ item ∈ items, item.Consists Writable) (∀ item ∈ items, item.depth ≤ room)
      (refusal.itemsFault? room items) := by
  induction items with
  | nil => exact .written (by simp) (by simp)
  | cons item items ih =>
      obtain ⟨first, each⟩ := List.forall_mem_cons.mp each
      rw [Refusal.itemsFault?]
      exact (first.and (ih each)).imp (by simp) (by simp)

/-- The keys of a JSON mapping are texts, which have no faults. -/
theorem fields_fault_eq (room : Nat) (fields : List (Text × Value)) :
    refusal.fieldsFault? room (fields.map fun field => (.text field.1, field.2)) =
      refusal.itemsFault? room (fields.map (·.2)) := by
  induction fields with
  | nil => rfl
  | cons field fields ih =>
      rw [List.map_cons, List.map_cons, Refusal.fieldsFault?, Refusal.itemsFault?, ih]
      rfl

/-- Written are the values whose integers have numerals, as far down as there is room. -/
theorem fault_decided {v : Value} (formed : v.Consists Scalar.Formed) (room : Nat) :
    Decided (v.Consists Writable) (v.depth ≤ room) (refusal.fault? room v) := by
  induction formed generalizing room with
  | @scalar s member =>
      have same : refusal.fault? room (.scalar s) = scalarFault? s := by cases room <;> rfl
      rw [Value.consists_scalar_iff, same]
      rcases scalar_fault_eq member with ⟨writable, none⟩ | ⟨unwritable, fault⟩
      · exact none.symm ▸ .written writable (Nat.zero_le room)
      · exact fault.symm ▸ .long unwritable
  | list _ ih =>
      cases room with
      | zero => exact .deeper (by simp [Value.depth])
      | succ room =>
          rw [Refusal.fault?]
          exact (items_fault_decided fun item member => ih item member room).imp
            (Value.consists_list_iff _).symm (by simp [Value.list_depth_le_iff])
  | @object fields distinct keys _ ih =>
      cases room with
      | zero => exact .deeper (by simp [Value.depth, Value.object])
      | succ room =>
          rw [Value.object, Refusal.fault?, fields_fault_eq]
          apply (items_fault_decided (List.forall_mem_map.mpr fun field member => ih field member room)).imp
          · rw [← Value.object, Value.consists_object_iff, List.forall_mem_map, and_iff_right distinct]
            exact forall₂_congr fun field _ => (and_iff_right trivial).symm
          · rw [← Value.object, Value.object_depth_le_iff, List.forall_mem_map]
            simp

theorem write_writable (layout : Layout) {v : Value} (writable : v.Consists Writable) {room : Nat}
    (deep : v.depth ≤ room) : write room layout v = .ok (render layout v) := by
  have decided := fault_decided (writable.weaken writable_formed) room
  rw [write]
  generalize refusal.fault? room v = fault at decided
  cases decided with
  | written => rfl
  | long unwritable => exact absurd writable unwritable
  | deeper tooDeep => exact absurd deep tooDeep

theorem write_unwritable (layout : Layout) {v : Value} (formed : v.Consists Scalar.Formed)
    (unwritable : ¬ v.Consists Writable) {room : Nat} (deep : v.depth ≤ room) :
    write room layout v = .error .badValue := by
  have decided := fault_decided formed room
  rw [write]
  generalize refusal.fault? room v = fault at decided
  cases decided with
  | written writable => exact absurd writable unwritable
  | long => rfl
  | deeper tooDeep => exact absurd deep tooDeep

end LaunchPolicy.Json
