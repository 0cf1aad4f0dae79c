import LaunchPolicy.Proofs.Json.Rendered
import LaunchPolicy.Proofs.Keyed
import LaunchPolicy.Proofs.Outcome

/-!
What is read from JSON text. A reader takes a first part of a text and gives a tree with text keys, or
it refuses: the text is no JSON, it has an integer of more digits than are read, or it opens more collections
than there is room for.
-/

namespace LaunchPolicy

/-- Scalars that are read from JSON text. -/
def Scalar.IsRead : Scalar → Prop
  | .null | .bool _ => True
  | .text t => Json.Apart t.points
  | .int n => Json.HasNumeral n
  | .float x => x.Canonical
  | _ => False

namespace Json

variable {α β : Type}

/-- A run of digits in a text is longer than any numeral that is read. -/
def HasLongNumeral (cs : List Char) : Prop :=
  ∃ digits, digits <:+: cs ∧ (∀ c ∈ digits, c.isDigit = true) ∧ Text.longestNumeral < digits.length

theorem HasLongNumeral.within {part cs : List Char} (long : HasLongNumeral part) (ends : part <:+ cs) :
    HasLongNumeral cs := by
  obtain ⟨digits, within, digital, length⟩ := long
  exact ⟨digits, within.trans ends.isInfix, digital, length⟩

def isOpening (c : Char) : Bool := c = '[' || c = '\x7b'

/-- More brackets are opened in a text than there is room for levels. -/
def IsCrowded (room : Nat) (cs : List Char) : Prop := room < cs.countP isOpening

theorem IsCrowded.within {room : Nat} {part cs : List Char} (crowded : IsCrowded room part)
    (ends : part <:+ cs) : IsCrowded room cs := Nat.lt_of_lt_of_le crowded (ends.sublist.countP_le)

/-- What is refused of a text: it is no JSON, or beyond the limits. -/
inductive Refused (room : Nat) (cs : List Char) : Fault → Prop
  | malformed : Refused room cs .notJson
  | long (numeral : HasLongNumeral cs) : Refused room cs .badValue
  | deep (crowded : IsCrowded room cs) : Refused room cs .tooDeep

theorem Refused.within {room : Nat} {part cs : List Char} {fault : Fault} (refused : Refused room part fault)
    (ends : part <:+ cs) : Refused room cs fault := by
  cases refused with
  | malformed => exact .malformed
  | long numeral => exact .long (numeral.within ends)
  | deep crowded => exact .deep (crowded.within ends)

/-- A reader of a text gives something of a kind and leaves an end of the text, or it refuses. -/
def Reads (holds : α → Prop) (room : Nat) (cs : List Char) : Except Fault (α × List Char) → Prop
  | .ok (a, after) => holds a ∧ after <:+ cs
  | .error fault => Refused room cs fault

section Reads

variable {holds : α → Prop} {holdsNext : β → Prop} {room : Nat} {cs part : List Char}

theorem reads_ok {a : α} {after : List Char} (holdsIt : holds a) (ends : after <:+ cs) :
    Reads holds room cs (.ok (a, after)) := ⟨holdsIt, ends⟩

theorem reads_no_json : Reads holds room cs (.error .notJson) := .malformed

/-- A reader of an end of a text reads the text. -/
theorem Reads.within {r : Except Fault (α × List Char)} (reads : Reads holds room part r)
    (ends : part <:+ cs) : Reads holds room cs r := by
  cases r with
  | ok result => exact ⟨reads.1, reads.2.trans ends⟩
  | error fault => exact Refused.within reads ends

/-- An opening bracket takes a level of the room. -/
theorem Reads.deeper {opening : Char} (opens : isOpening opening = true) {rest : List Char}
    {inside : Nat → Except Fault (α × List Char)}
    (reads : ∀ below, Reads holds below rest (inside below)) :
    Reads holds room (opening :: rest) (deeper room inside) := by
  have more : (opening :: rest).countP isOpening = rest.countP isOpening + 1 := List.countP_cons_of_pos opens
  cases room with
  | zero => exact .deep (Nat.lt_of_lt_of_eq (Nat.succ_pos _) more.symm)
  | succ below =>
      have within := reads below
      rw [Json.deeper]
      cases read : inside below with
      | ok result =>
          rw [read] at within
          exact reads_ok within.1 (within.2.trans (List.suffix_cons opening rest))
      | error fault =>
          rw [read] at within
          cases within with
          | malformed => exact .malformed
          | long numeral => exact .long (numeral.within (List.suffix_cons opening rest))
          | deep crowded => exact .deep (Nat.lt_of_lt_of_eq (Nat.succ_lt_succ crowded) more.symm)

theorem Reads.bind {r : Except Fault (α × List Char)}
    {next : α × List Char → Except Fault (β × List Char)} (first : Reads holds room cs r)
    (then_ : ∀ a after, holds a → after <:+ cs → Reads holdsNext room cs (next (a, after))) :
    Reads holdsNext room cs (r >>= next) := by
  cases r with
  | ok result => exact then_ result.1 result.2 first.1 first.2
  | error fault => exact first

/-- What is read is of a kind as well. -/
theorem Reads.also {more : α → Prop} {r : Except Fault (α × List Char)} (reads : Reads holds room cs r)
    (also : ∀ a after, r = .ok (a, after) → more a) : Reads more room cs r := by
  cases r with
  | ok result => exact ⟨also result.1 result.2 rfl, reads.2⟩
  | error fault => exact reads

/-- What is read is put into something else. -/
theorem Reads.map {r : Except Fault (α × List Char)} {f : α → β} (reads : Reads holds room cs r)
    (keeps : ∀ a, holds a → holdsNext (f a)) :
    Reads holdsNext room cs (r >>= fun read => .ok (f read.1, read.2)) :=
  reads.bind fun a _ holdsIt ends => ⟨keeps a holdsIt, ends⟩

end Reads

theorem skip_space_ends (cs : List Char) : skipSpace cs <:+ cs := List.dropWhile_suffix isSpace

theorem rest_ends {c : Char} {cs rest : List Char} (form : cs = c :: rest) : rest <:+ cs :=
  form ▸ List.suffix_cons c rest

section Texts

variable {room : Nat} {cs : List Char}

def Anything (_ : α) : Prop := True

theorem read_unit_reads (cs : List Char) : Reads Anything room cs (readUnit cs) := by
  rw [readUnit.eq_def]
  split
  · rename_i a b c d rest
    split
    · exact reads_ok trivial (List.suffix_append [a, b, c, d] rest)
    · exact reads_no_json
  · exact reads_no_json

theorem read_escaped_units_reads (cs : List Char) : Reads Anything room cs (readEscapedUnits cs) := by
  apply (read_unit_reads cs).bind
  intro unit rest _ ends
  simp only
  split
  · split
    · rename_i after
      have afterEnds : after <:+ cs := (List.suffix_append ['\\', 'u'] after).trans ends
      apply ((read_unit_reads after).within afterEnds).bind
      intro second afterPair _ pairEnds
      simp only
      split
      · exact reads_ok trivial pairEnds
      · exact reads_ok trivial ends
    · exact reads_ok trivial ends
  · exact reads_ok trivial ends

theorem read_text_ends (fuel : Nat) (cs : List Char) : Reads Anything room cs (readText fuel cs) := by
  induction fuel generalizing cs with
  | zero => exact reads_no_json
  | succ fuel ih =>
      cases cs with
      | nil => exact reads_no_json
      | cons c rest =>
          have tail : rest <:+ c :: rest := List.suffix_cons c rest
          have after (point : Point) {part : List Char} (ends : part <:+ c :: rest) :
              Reads Anything room (c :: rest)
                (readText fuel part >>= fun read => .ok (point :: read.1, read.2)) :=
            ((ih part).within ends).map fun _ _ => trivial
          rw [readText.eq_def]
          simp only
          split
          · exact reads_ok trivial tail
          · split
            · split
              · rename_i digits
                have digitsEnd : digits <:+ c :: 'u' :: digits := List.suffix_append [c, 'u'] digits
                apply ((read_escaped_units_reads digits).within digitsEnd).bind
                intro point afterEscape _ ends
                exact after point ends
              · rename_i escape afterEscape _
                split
                · exact after _ (List.suffix_append [c, escape] afterEscape)
                · exact reads_no_json
              · exact reads_no_json
            · split
              · exact reads_no_json
              · exact after c tail

theorem read_text_reads (fuel : Nat) (cs : List Char) :
    Reads (fun points => Scalar.IsRead (.text (Text.ofPoints points))) room cs (readText fuel cs) :=
  (read_text_ends fuel cs).also fun points _ read => by
    rw [Scalar.IsRead, Text.points_of_points]
    exact read_text_apart read

end Texts

section Numbers

variable {room : Nat}

theorem digits_of_digital (cs : List Char) : ∀ c ∈ (digitsOf cs).1, c.isDigit = true := fun _ member =>
  List.mem_takeWhile_imp member

theorem digits_of_append (cs : List Char) : (digitsOf cs).1 ++ (digitsOf cs).2 = cs :=
  List.takeWhile_append_dropWhile

theorem read_fraction_ends (cs : List Char) : (readFraction cs).2 <:+ cs := by
  rw [readFraction.eq_def]
  split
  · rename_i rest
    split
    · exact List.suffix_rfl
    · exact (List.dropWhile_suffix Char.isDigit).trans (List.suffix_cons '.' rest)
  · exact List.suffix_rfl

theorem read_exponent_ends (cs : List Char) : (readExponent cs).2 <:+ cs := by
  rw [readExponent.eq_def]
  split
  · rename_i mark rest
    split
    · split
      rename_i sign body form
      have bodyEnds : body <:+ rest := by
        split at form <;> obtain ⟨rfl, rfl⟩ := Prod.mk.inj form
        · exact List.suffix_cons _ _
        · exact List.suffix_cons _ _
        · exact List.suffix_rfl
      split
      · exact List.suffix_rfl
      · rename_i digits after _ taken
        have afterEnds : after <:+ body := by
          have same : (digitsOf body).2 = after := congrArg Prod.snd taken
          exact same ▸ List.dropWhile_suffix Char.isDigit
        exact (afterEnds.trans bodyEnds).trans (List.suffix_cons mark rest)
    · exact List.suffix_rfl
  · exact List.suffix_rfl

theorem unsigned_decimal_canonical {negative : Bool} {cs : List Char} {x : Binary64}
    (decimal : Text.unsignedDecimal? negative cs = some x) : x.Canonical := by
  simp only [Text.unsignedDecimal?, Option.bind_eq_bind, Option.bind_eq_some_iff] at decimal
  obtain ⟨-, -, scale, -, result⟩ := decimal
  exact Option.some.inj result ▸ Binary64.of_decimal_canonical _ _ _

theorem whole_part_digital (cs : List Char) : ∀ c ∈ (wholePart cs).1, c.isDigit = true := by
  rw [wholePart.eq_def]
  split
  · simp
  · exact digits_of_digital cs

theorem whole_part_append (cs : List Char) : (wholePart cs).1 ++ (wholePart cs).2 = cs := by
  rw [wholePart.eq_def]
  split
  · rfl
  · exact digits_of_append cs

/-- An integer is refused for its length alone. -/
theorem read_number_reads (negative : Bool) (cs : List Char) :
    Reads (fun v : Value => v.Consists Scalar.IsRead) room cs (readNumber negative cs) := by
  have form := whole_part_append cs
  have digital := whole_part_digital cs
  simp only [readNumber]
  generalize (wholePart cs).1 = whole at *
  generalize (wholePart cs).2 = afterWhole at *
  have ends : (readExponent (readFraction afterWhole).2).2 <:+ cs :=
    ((read_exponent_ends _).trans (read_fraction_ends afterWhole)).trans
      (form ▸ List.suffix_append whole afterWhole)
  split
  · exact reads_no_json
  · split
    · split
      · rename_i long
        exact .long ⟨whole, (form ▸ List.prefix_append whole afterWhole).isInfix, digital, long⟩
      · rename_i short
        refine reads_ok (.scalar ?_) ends
        have bound := Text.value_lt_pow digital
        have magnitude : (if negative then -(Text.valueOf whole : Int) else Text.valueOf whole).natAbs =
            Text.valueOf whole := by
          split <;> omega
        have numeral : (Nat.toDigits 10 (Text.valueOf whole)).length ≤ Text.longestNumeral :=
          (Nat.length_toDigits_le_iff (by decide) (by decide)).mpr
            (bound.trans_le (Nat.pow_le_pow_right (by decide) (not_lt.mp short)))
        exact (congrArg (fun n => (Nat.toDigits 10 n).length ≤ Text.longestNumeral) magnitude).mpr numeral
    · split
      · rename_i x decimal
        exact reads_ok (.scalar (unsigned_decimal_canonical decimal)) ends
      · exact reads_no_json

theorem read_word_reads (cs : List Char) :
    Reads (fun v : Value => v.Consists Scalar.IsRead) room cs (readWord cs) := by
  rw [readWord]
  split
  · rename_i word value found
    refine reads_ok ?_ (List.drop_suffix _ _)
    have member := List.mem_of_find?_eq_some found
    have each : ∀ word ∈ words, word.2.Consists Scalar.IsRead := by
      simp only [words, List.forall_mem_cons]
      exact ⟨.scalar trivial, .scalar trivial, .scalar trivial, .scalar trivial, .scalar trivial,
        .scalar trivial, by simp⟩
    exact each _ member
  · exact reads_no_json

end Numbers

section Trees

/-- Fields with text keys, put one after another. -/
theorem put_text (known : List (Text × Value)) (field : Text × Value) :
    Fields.put (known.map fun field => (.text field.1, field.2)) (.text field.1) field.2 =
      (Keyed.put Prod.fst known field).map fun field => (.text field.1, field.2) := by
  induction known with
  | nil => rfl
  | cons first known ih =>
      simp only [List.map_cons, Fields.put, Keyed.put, Scalar.same_key_text, decide_eq_true_eq, ih]
      split <;> simp_all

/-- Of a repeated key the last value counts, in the place of the first. -/
theorem distinct_fields_eq (fields : List (Text × Value)) :
    distinctFields fields =
      (fields.foldl (Keyed.put Prod.fst) []).map fun field => (.text field.1, field.2) := by
  suffices general : ∀ known : List (Text × Value),
      fields.foldl (fun known field => Fields.put known (.text field.1) field.2)
        (known.map fun field => (Scalar.text field.1, field.2)) =
          (fields.foldl (Keyed.put Prod.fst) known).map fun field => (.text field.1, field.2) from general []
  induction fields with
  | nil => simp
  | cons field fields ih =>
      intro known
      rw [List.foldl_cons, put_text, ih, List.foldl_cons]

theorem distinct_fields_consist {kind : Scalar → Prop} {fields : List (Text × Value)}
    (each : ∀ field ∈ fields, kind (.text field.1) ∧ field.2.Consists kind) :
    (Value.map (distinctFields fields)).Consists kind := by
  have keeps : Keyed.Keeps Prod.fst (fields.foldl (Keyed.put Prod.fst) []) fields := Keyed.keeps_fold fields
  rw [distinct_fields_eq]
  exact (Value.consists_object_iff _).mpr ⟨keeps.distinct, fun field member => each field (keeps.subset member)⟩

/-- The three readers call each other with less fuel. -/
theorem read_value_reads (fuel : Nat) :
    (∀ room cs, Reads (fun v : Value => v.Consists Scalar.IsRead) room cs (readValue room fuel cs)) ∧
      (∀ room cs, Reads (fun items => ∀ item ∈ items, item.Consists Scalar.IsRead) room cs
        (readItems room fuel cs)) ∧
      (∀ room cs, Reads (fun fields : List (Text × Value) => ∀ field ∈ fields,
          Scalar.IsRead (.text field.1) ∧ field.2.Consists Scalar.IsRead) room cs
        (readFields room fuel cs)) := by
  induction fuel with
  | zero => exact ⟨fun _ _ => reads_no_json, fun _ _ => reads_no_json, fun _ _ => reads_no_json⟩
  | succ fuel ih =>
      obtain ⟨value, items, fields⟩ := ih
      have behind {c : Char} {rest part after : List Char} (form : skipSpace part = c :: rest)
          (ends : after <:+ rest) : after <:+ part :=
        (ends.trans (rest_ends form)).trans (skip_space_ends part)
      refine ⟨fun room cs => ?_, fun room cs => ?_, fun room cs => ?_⟩
      · rw [readValue.eq_def]
        simp only
        split
        · rename_i rest
          exact ((read_text_reads (rest.length + 1) rest).within (List.suffix_cons '"' rest)).bind
            fun _ _ apart ends => reads_ok (.scalar apart) ends
        · rename_i rest
          apply Reads.deeper (by decide)
          intro below
          split
          · rename_i after form
            exact reads_ok (.list (by simp)) ((rest_ends form).trans (skip_space_ends rest))
          · exact ((items below _).within (skip_space_ends rest)).map fun _ each => .list each
        · rename_i rest
          apply Reads.deeper (by decide)
          intro below
          split
          · rename_i after form
            exact reads_ok (Value.empty_consists _) ((rest_ends form).trans (skip_space_ends rest))
          · exact ((fields below _).within (skip_space_ends rest)).map fun _ each => distinct_fields_consist each
        · rename_i rest
          split
          · exact read_word_reads _
          · exact (read_number_reads true rest).within (List.suffix_cons _ rest)
        · split
          · exact read_number_reads false _
          · exact read_word_reads _
        · exact reads_no_json
      · rw [readItems]
        apply (value room cs).bind
        intro item afterItem consists ends
        simp only
        split
        · rename_i rest form
          have more := (items room (skipSpace rest)).within ((behind form (skip_space_ends rest)).trans ends)
          exact more.map fun _ each => List.forall_mem_cons.mpr ⟨consists, each⟩
        · rename_i after form
          exact reads_ok (by simpa using consists) ((behind form List.suffix_rfl).trans ends)
        · exact reads_no_json
      · rw [readFields.eq_def]
        simp only
        split
        · rename_i rest
          apply ((read_text_reads _ rest).within (List.suffix_cons _ rest)).bind
          intro key afterKey apart keyEnds
          simp only
          split
          · rename_i afterColon colon
            have colonEnds := (behind colon (skip_space_ends afterColon)).trans keyEnds
            apply ((value room _).within colonEnds).bind
            intro inner afterValue consists ends
            simp only
            split
            · rename_i more form
              have others := (fields room (skipSpace more)).within ((behind form (skip_space_ends more)).trans ends)
              exact others.map fun _ each => List.forall_mem_cons.mpr ⟨⟨apart, consists⟩, each⟩
            · rename_i after form
              exact reads_ok (List.forall_mem_singleton.mpr ⟨apart, consists⟩) ((behind form List.suffix_rfl).trans ends)
            · exact reads_no_json
          · exact reads_no_json
        · exact reads_no_json

end Trees

section Whole

variable {room : Nat} {text : String} {v : Value} {fault : Fault}

theorem read_reads (room : Nat) (text : String) :
    Reads (fun v : Value => v.Consists Scalar.IsRead) room text.toList
      ((read room text).map fun v => (v, [])) := by
  have value := ((read_value_reads (2 * (skipSpace text.toList).length + 2)).1 room
    (skipSpace text.toList)).within (skip_space_ends text.toList)
  simp only [read]
  generalize readValue room (2 * (skipSpace text.toList).length + 2) (skipSpace text.toList) = result at *
  cases result with
  | error fault => exact value
  | ok reading =>
      simp only [bind, Except.bind]
      split
      · exact reads_ok value.1 List.nil_suffix
      · exact reads_no_json

/-- What is read is a tree with text keys, none of them twice. -/
theorem read_consists (done : read room text = .ok v) : v.Consists Scalar.IsRead := by
  have reads := read_reads room text
  rw [done] at reads
  exact reads.1

/-- A text is no JSON, it has an integer of more digits than are read, or it opens too many collections. -/
theorem read_refused (failed : read room text = .error fault) : Refused room text.toList fault := by
  have reads := read_reads room text
  rw [failed] at reads
  exact reads

end Whole

end Json

end LaunchPolicy
