import LaunchPolicy.Log.Clock
import LaunchPolicy.Proofs.Json.Printable
import LaunchPolicy.Proofs.Json.Reading
import LaunchPolicy.Proofs.Json.RoundTrip

/-!
What a structured line tells of a record. The line is printable ASCII, whatever the record holds, and
the one JSON object on it has every field once: the standard parts, over them the record's own fields,
and over these the fields that the log adds. There is no line for an integer that is too long, nor for
values with more levels than are followed.
-/

namespace LaunchPolicy

variable {kind : Scalar → Prop} {fields later : Fields}

/-! Fields over fields -/

namespace Fields

theorem get_eq_none {name : Text} (absent : .text name ∉ fields.map Prod.fst) :
    fields.get? (.text name) = none := by
  induction fields with
  | nil => rfl
  | cons field fields ih =>
      obtain ⟨other, absent⟩ := not_or.mp (mt List.mem_cons.mpr absent)
      rw [get?, if_neg (mt (Scalar.same_key_text_iff _ _).mp (Ne.symm other)), ih absent]

/-- A filter on keys takes away the fields of some names and leaves the others. -/
theorem get_filter (keep : Scalar → Bool) (name : Text) :
    Fields.get? (fields.filter fun field => keep field.1) (.text name) =
      if keep (.text name) then fields.get? (.text name) else none := by
  induction fields with
  | nil => simp [get?]
  | cons field fields ih =>
      by_cases here : field.1 = .text name
      · by_cases kept : keep (.text name) = true <;> simp_all [get?, Scalar.same_key_text]
      · have other := mt (Scalar.same_key_text_iff field.1 name).mp here
        rw [List.filter_cons]
        split <;> simp only [get?, other, if_false, ih, Bool.false_eq_true]

end Fields

namespace Value

theorem consists_map_iff :
    (Value.map fields).Consists kind ↔
      (fields.map Prod.fst).Nodup ∧
        ∀ field ∈ fields, (∃ name, field.1 = .text name) ∧ kind field.1 ∧ field.2.Consists kind := by
  constructor
  · intro consists
    obtain ⟨named, form, distinct, each⟩ := consists.named
    obtain rfl := Value.map.inj form
    constructor
    · have keys := distinct.map (fun _ _ same => Scalar.text.inj same : Function.Injective Scalar.text)
      rwa [List.map_map] at keys ⊢
    · intro field member
      obtain ⟨source, within, rfl⟩ := List.mem_map.mp member
      exact ⟨⟨source.1, rfl⟩, each source within⟩
  · rintro ⟨distinct, each⟩
    obtain ⟨named, rfl⟩ : ∃ named : List (Text × Value),
        fields = named.map fun field => (.text field.1, field.2) := by
      refine ⟨fields.map fun field => (field.1.plain, field.2), ?_⟩
      rw [List.map_map, List.map_congr_left (g := id), List.map_id]
      intro field member
      obtain ⟨⟨name, key⟩, -⟩ := each field member
      exact Prod.ext (by simp [key, Scalar.plain]) rfl
    rw [List.map_map] at distinct
    exact (consists_object_iff named).mpr ⟨List.Nodup.of_map Scalar.text (by rwa [List.map_map]),
      fun field member => (each _ (List.mem_map_of_mem member)).2⟩

theorem Consists.put (consists : (Value.map fields).Consists kind) {v : Value} {name : Text}
    (named : kind (.text name)) (member : v.Consists kind) : (Value.map (fields.put (.text name) v)).Consists kind := by
  obtain ⟨known, form, distinct, each⟩ := consists.named
  obtain rfl := Value.map.inj form
  have kept : Keyed.Keeps Prod.fst known known := ⟨(Keyed.erase_dups_of_nodup distinct).symm, fun _ => rfl⟩
  rw [Json.put_text known (name, v)]
  refine (consists_object_iff _).mpr ⟨(kept.put (name, v)).distinct, fun field within => ?_⟩
  rcases Keyed.mem_put Prod.fst within with rfl | before
  · exact ⟨named, member⟩
  · exact each field before

theorem Consists.first {key : Scalar} {v : Value} (consists : (Value.map ((key, v) :: fields)).Consists kind) :
    ∃ name, key = .text name ∧ kind (.text name) ∧ v.Consists kind ∧ fields.get? (.text name) = none ∧
      (Value.map fields).Consists kind := by
  obtain ⟨distinct, each⟩ := consists_map_iff.mp consists
  obtain ⟨new, others⟩ := List.nodup_cons.mp distinct
  obtain ⟨⟨⟨name, rfl⟩, named, member⟩, rest⟩ := List.forall_mem_cons.mp each
  exact ⟨name, rfl, named, member, Fields.get_eq_none new, consists_map_iff.mpr ⟨others, rest⟩⟩

theorem Consists.override (consists : (Value.map fields).Consists kind)
    (replacing : (Value.map later).Consists kind) : (Value.map (Log.override fields later)).Consists kind := by
  induction later generalizing fields with
  | nil => exact consists
  | cons field later ih =>
      obtain ⟨name, key, named, member, -, rest⟩ := replacing.first
      rw [Log.override, List.foldl_cons, key]
      exact ih (consists.put named member) rest

end Value

namespace Log

/-- Each field is the later one of its name, or else the earlier one. -/
theorem get_override (replacing : (Value.map later).Consists kind) (name : Text) :
    (override fields later).get? (.text name) =
      (later.get? (.text name)).or (fields.get? (.text name)) := by
  induction later generalizing fields with
  | nil => rfl
  | cons field later ih =>
      obtain ⟨key, v⟩ := field
      obtain ⟨known, rfl, -, -, sole, rest⟩ := replacing.first
      rw [override, List.foldl_cons, ← override, ih rest, Fields.get_put, Fields.get?, Scalar.same_key_text]
      by_cases same : known = name
      · subst same
        simp [sole]
      · simp [same]

/-! The object of a line -/

namespace StructuredStyle

variable {style : StructuredStyle} {r : Record}

/-- The standard parts by name, those that are not shown without a value. -/
def parts (style : StructuredStyle) (r : Record) : List (Text × Option Value) :=
  [("timestamp", if style.showsTime then some (.text r.time) else none),
    ("level", some (.text (lowered r.levelName))),
    ("logger", some (.text r.logger)),
    ("message", some (.text r.message)),
    ("location", if style.showsLocation then some r.location.toValue else none),
    ("exception", r.exception.map .text)]

def part? (style : StructuredStyle) (r : Record) (name : Text) : Option Value :=
  ((style.parts r).lookup name).join

/-- The fields of the parts that have a value. -/
def given (parts : List (Text × Option Value)) : Fields :=
  parts.filterMap fun part => part.2.map fun v => (.text part.1, v)

@[simp] theorem given_cons_none (name : Text) (parts : List (Text × Option Value)) :
    given ((name, none) :: parts) = given parts := rfl

@[simp] theorem given_cons_some (name : Text) (v : Value) (parts : List (Text × Option Value)) :
    given ((name, some v) :: parts) = (.text name, v) :: given parts := rfl

theorem keys_of_given (parts : List (Text × Option Value)) :
    ((given parts).map Prod.fst).Sublist (parts.map fun part => .text part.1) := by
  induction parts with
  | nil => exact .slnil
  | cons part parts ih =>
      obtain ⟨name, v?⟩ := part
      cases v? with
      | none => exact ih.cons _
      | some v => exact ih.cons_cons _

theorem given_distinct {parts : List (Text × Option Value)} (distinct : (parts.map Prod.fst).Nodup) :
    ((given parts).map Prod.fst).Nodup := by
  refine (keys_of_given parts).nodup ?_
  have keys := distinct.map (fun _ _ same => Scalar.text.inj same : Function.Injective Scalar.text)
  rwa [List.map_map] at keys

theorem get_given {parts : List (Text × Option Value)} (distinct : (parts.map Prod.fst).Nodup)
    (name : Text) : (given parts).get? (.text name) = (parts.lookup name).join := by
  induction parts with
  | nil => rfl
  | cons part parts ih =>
      obtain ⟨known, v?⟩ := part
      obtain ⟨new, others⟩ := List.nodup_cons.mp distinct
      have rest := ih others
      rw [List.lookup_cons]
      by_cases same : name = known
      · subst same
        have absent : .text name ∉ (given parts).map Prod.fst := by
          intro member
          obtain ⟨part, within, key⟩ := List.mem_map.mp ((keys_of_given parts).subset member)
          exact new (List.mem_map.mpr ⟨part, within, Scalar.text.inj key⟩)
        cases v? with
        | none => simpa using Fields.get_eq_none absent
        | some v => simp [given, Fields.get?, Scalar.same_key_text]
      · cases v? with
        | none => simpa [beq_eq_false_iff_ne.mpr same] using rest
        | some v =>
            simpa [given, Fields.get?, Scalar.same_key_text, Ne.symm same, beq_eq_false_iff_ne.mpr same] using rest

theorem part_names_distinct (style : StructuredStyle) (r : Record) : ((style.parts r).map Prod.fst).Nodup := by
  change (["timestamp", "level", "logger", "message", "location", "exception"] : List Text).Nodup
  decide

theorem standard_fields_eq (style : StructuredStyle) (r : Record) :
    style.standardFields r = given (style.parts r) := by
  rw [standardFields, parts]
  cases style.showsTime <;> cases style.showsLocation <;> cases r.exception <;> rfl

theorem get_standard_fields (style : StructuredStyle) (r : Record) (name : Text) :
    (style.standardFields r).get? (.text name) = style.part? r name := by
  rw [standard_fields_eq, get_given (part_names_distinct style r), part?]

theorem standard_fields_consist (strings : ∀ s : String, kind (.text s)) (message : kind (.text r.message))
    (exception : ∀ t ∈ r.exception, kind (.text t)) (location : r.location.toValue.Consists kind) :
    (Value.map (style.standardFields r)).Consists kind := by
  have string (s : String) : (Value.text s).Consists kind := .scalar (strings s)
  have each : ∀ part ∈ style.parts r, kind (.text part.1) ∧ ∀ v ∈ part.2, v.Consists kind := by
    simp only [parts, List.forall_mem_cons, Option.mem_def, Option.ite_none_right_eq_some, Option.some.injEq,
      Option.map_eq_some_iff]
    refine ⟨⟨strings _, ?_⟩, ⟨strings _, ?_⟩, ⟨strings _, ?_⟩, ⟨strings _, ?_⟩, ⟨strings _, ?_⟩,
      ⟨strings _, ?_⟩, by simp⟩
    · rintro v ⟨-, rfl⟩
      exact string _
    · rintro v rfl
      exact string _
    · rintro v rfl
      exact string _
    · rintro v rfl
      exact .scalar message
    · rintro v ⟨-, rfl⟩
      exact location
    · rintro v ⟨t, given, rfl⟩
      exact .scalar (exception t given)
  rw [standard_fields_eq, Value.consists_map_iff]
  refine ⟨given_distinct (part_names_distinct style r), fun field member => ?_⟩
  obtain ⟨part, listed, made⟩ := List.mem_filterMap.mp member
  obtain ⟨v, some, rfl⟩ := Option.map_eq_some_iff.mp made
  exact ⟨⟨part.1, rfl⟩, (each part listed).1, (each part listed).2 v some⟩

theorem entry_consists (strings : ∀ s : String, kind (.text s)) (message : kind (.text r.message))
    (exception : ∀ t ∈ r.exception, kind (.text t)) (location : r.location.toValue.Consists kind)
    (own : (Value.map r.ownFields).Consists kind) (extra : (Value.map style.extra).Consists kind) :
    (Value.map (style.entry r)).Consists kind :=
  ((standard_fields_consist strings message exception location).override own).override extra

/-- The line of any record at all is printable ASCII. -/
theorem line_printable {machine : Machine} {line : String} (written : style.line machine r = .ok line) :
    Json.Printable line.toList := by
  rw [StructuredStyle.line, Json.write] at written
  split at written
  · obtain rfl := Except.ok.inj written
    exact Json.render_printable _
  · contradiction

/-- Times that a line can show, if it shows times: those of the years from 1 to 9999. -/
def HasTime (style : StructuredStyle) (seconds : Value) : Prop :=
  style.showsTime = true → ∃ instant, Instant.ofValue seconds = .ok instant ∧
    Date.dayNumber ⟨1, 1, 1⟩ ≤ instant.day ∧ instant.day ≤ Date.dayNumber ⟨9999, 12, 31⟩

theorem has_time_iff {seconds : Value} :
    style.HasTime seconds ↔ ∃ time, (LineStyle.structured style).timeText seconds = .ok time := by
  simp only [HasTime, LineStyle.timeText]
  cases style.showsTime with
  | false => simp
  | true =>
      cases Instant.ofValue seconds with
      | error fault => simp [bind, Except.bind]
      | ok instant =>
          by_cases within : Date.dayNumber ⟨1, 1, 1⟩ ≤ instant.day ∧ instant.day ≤ Date.dayNumber ⟨9999, 12, 31⟩ <;>
            simp [bind, Except.bind, timeText, Instant.date?, within]

/-- The line holds one object, which is read back from it and has each of its fields once: the one that
the log adds, or else the record's own, or else the standard part. -/
theorem line_holds_entry (machine : Machine) (location : r.location.toValue.Consists Json.Writable)
    (own : (Value.map r.ownFields).Consists Json.Writable) (extra : (Value.map style.extra).Consists Json.Writable)
    (deep : (Value.map (style.entry r)).depth ≤ machine.jsonWritten) :
    ∃ line, ∃ entry : List (Text × Value), style.line machine r = .ok line ∧
      line = Json.render .compact (.object entry) ∧
      ((Value.map (style.entry r)).Consists Json.Unjoined →
        (Value.map (style.entry r)).depth ≤ machine.jsonRead →
        Json.read machine.jsonRead line = .ok (.object entry)) ∧
      (entry.map Prod.fst).Nodup ∧
      ∀ name, (Value.object entry).get? name =
        ((style.extra.get? (.text name)).or
          (if Record.isReserved name then none else r.fields.get? (.text name))).or (style.part? r name) := by
  have whole : (Value.map (style.entry r)).Consists Json.Writable :=
    entry_consists (fun _ => trivial) trivial (fun _ _ => trivial) location own extra
  obtain ⟨entry, form, distinct, -⟩ := whole.named
  refine ⟨_, entry, Json.write_writable _ whole deep, by rw [form], fun unjoined room => ?_, distinct,
    fun name => ?_⟩
  · rw [← form]
    exact Json.read_render (show Json.Layout.compact.IsBlank from trivial) (whole.and unjoined) room
  · rw [← form]
    change (style.entry r).get? (.text name) = _
    rw [StructuredStyle.entry, get_override extra, get_override own, get_standard_fields, Record.ownFields,
      Fields.get_filter, Option.or_assoc]
    cases reserved : Record.isReserved name <;> simp [Record.isOwn, reserved]

/-- A line is printable ASCII. Where the time can be shown, integers have numerals and there is room for the
levels there is one, and it is the JSON text of one object, which is read back from it unless one of its
texts has halves that stand like a pair. The object has each of its fields once: the one that the log adds,
or else the record's own, or else the standard part. -/
theorem line_holds_fields (machine : Machine) (style : StructuredStyle) (seconds : Value) (r : Record) :
    (∀ text, (LineStyle.structured style).lineAt machine seconds r = .ok text →
      ∃ line : String, text = line ∧ Json.Printable line.toList) ∧
    (r.location.toValue.Consists Json.Writable → (Value.map r.ownFields).Consists Json.Writable →
      (Value.map style.extra).Consists Json.Writable → style.HasTime seconds →
      ∃ time, (LineStyle.structured style).timeText seconds = .ok time ∧
        ((Value.map (style.entry { r with time })).depth ≤ machine.jsonWritten →
          ∃ line : String, ∃ entry : List (Text × Value),
            (LineStyle.structured style).lineAt machine seconds r = .ok line ∧
            line = Json.render .compact (.object entry) ∧
            ((Value.map (style.entry { r with time })).Consists Json.Unjoined →
              (Value.map (style.entry { r with time })).depth ≤ machine.jsonRead →
              Json.read machine.jsonRead line = .ok (.object entry)) ∧
            (entry.map Prod.fst).Nodup ∧
            ∀ name, (Value.object entry).get? name =
              ((style.extra.get? (.text name)).or
                (if Record.isReserved name then none else r.fields.get? (.text name))).or
                (style.part? { r with time } name))) := by
  constructor
  · intro text made
    rw [LineStyle.lineAt] at made
    cases shown : (LineStyle.structured style).timeText seconds with
    | error fault => simp [shown, bind, Except.bind] at made
    | ok time =>
        rw [shown] at made
        obtain ⟨line, written, rfl⟩ := Outcome.map_ok_iff.mp made
        exact ⟨line, rfl, line_printable written⟩
  · intro location own extra known
    obtain ⟨time, shown⟩ := has_time_iff.mp known
    refine ⟨time, shown, fun deep => ?_⟩
    obtain ⟨line, entry, written, rest⟩ := line_holds_entry (r := { r with time }) machine location own extra deep
    refine ⟨line, entry, ?_, rest⟩
    rw [LineStyle.lineAt, shown]
    exact congrArg (Except.map Text.string) written

/-- A record that tries to end its line, to forge its logger and to replace its message. -/
def forgingRecord : Record where
  logger := "ccpolicy"
  level := Level.warning
  message := "a\"\x7d\n\x7b\"level\": \"info\" \u2028é😀"
  exception := some "boom\r\nbang"
  fields := [(.text "logger", .text "other"), (.text "msg", .text "b"), (.text "nested\n", .list [.null, .int 7])]

def labelledStyle : StructuredStyle where
  extra := [(.text "level", .text "none"), (.text "run", .map [(.text "id", .bool true)])]

theorem forging_record_on_one_line :
    ∃ line : String, ∃ entry : List (Text × Value),
      (LineStyle.structured labelledStyle).lineAt .standard (.int 0) forgingRecord = .ok line ∧
      Json.read Machine.standard.jsonRead line = .ok (.object entry) ∧ (entry.map Prod.fst).Nodup ∧
      (Value.object entry).get? "timestamp" = some (.text "1970-01-01T00:00:00.000000Z") ∧
      (Value.object entry).get? "message" = some (.text forgingRecord.message) ∧
      (Value.object entry).get? "logger" = some (.text "other") ∧
      (Value.object entry).get? "level" = some (.text "none") ∧
      (Value.object entry).get? "msg" = none ∧
      (Value.object entry).get? "exception" = some (.text "boom\r\nbang") ∧
      ∀ c ∈ line.toList, c ≠ '\n' := by
  have ownFields : forgingRecord.ownFields =
      [(.text "logger", .text "other"), (.text "nested\n", .list [.null, .int 7])] := by decide
  have location {kind : Scalar → Prop} (strings : ∀ s : String, kind (.text s)) (null : kind .null) :
      forgingRecord.location.toValue.Consists kind := by
    simp [forgingRecord, Location.toValue, Value.consists_object_iff, Value.consists_scalar_iff, strings, null]
  have own {kind : Scalar → Prop} (strings : ∀ s : String, kind (.text s)) (null : kind .null)
      (seven : kind (.int 7)) : (Value.map forgingRecord.ownFields).Consists kind := by
    rw [ownFields, Value.consists_map_iff]
    simp [Value.consists_scalar_iff, Value.consists_list_iff, strings, null, seven]
  have extra {kind : Scalar → Prop} (strings : ∀ s : String, kind (.text s)) (truth : kind (.bool true)) :
      (Value.map labelledStyle.extra).Consists kind := by
    simp [labelledStyle, Value.consists_map_iff, Value.consists_scalar_iff, strings, truth]
  have unjoined (time : String) :
      (Value.map (labelledStyle.entry { forgingRecord with time })).Consists Json.Unjoined :=
    entry_consists Json.string_apart (Json.string_apart _)
      (by simp [forgingRecord]) (location Json.string_apart trivial)
      (own Json.string_apart trivial trivial) (extra Json.string_apart trivial)
  obtain ⟨printable, holds⟩ := line_holds_fields .standard labelledStyle (.int 0) forgingRecord
  have known : labelledStyle.HasTime (.int 0) := fun _ => ⟨⟨0, 0⟩, rfl, by decide, by decide⟩
  obtain ⟨time, shown, holds⟩ := holds (location (fun _ => trivial) trivial)
    (own (fun _ => trivial) trivial (by decide : Json.HasNumeral 7)) (extra (fun _ => trivial) trivial) known
  have start : (LineStyle.structured labelledStyle).timeText (.int 0) = .ok "1970-01-01T00:00:00.000000Z" := by
    decide +kernel
  obtain rfl := Except.ok.inj (shown.symm.trans start)
  obtain ⟨line, entry, written, rendered, read, distinct, fields⟩ := holds (by decide)
  refine ⟨line, entry, written, read (unjoined _) (by decide), distinct, (fields _).trans rfl,
    (fields _).trans rfl, (fields _).trans rfl, (fields _).trans rfl, (fields _).trans rfl,
    (fields _).trans rfl, ?_⟩
  obtain ⟨other, same, visible⟩ := printable line written
  obtain rfl := Text.string.inj same
  rintro c member rfl
  exact absurd (visible _ member) (by decide)

/-- A record with an integer. -/
def countingRecord (n : Int) : Record where
  logger := "ccpolicy"
  level := Level.info
  message := "counted"
  fields := [(.text "count", .int n)]

/-- A time after the year 9999 has no line where times are shown, and an integer whose numeral is one digit
too long has none at all. -/
theorem records_without_line :
    (LineStyle.structured {}).lineAt .standard (.int 1000000000000) (countingRecord 1) = .error .badValue ∧
      (Value.map (countingRecord (Nat.pow 10 Text.longestNumeral)).ownFields).Consists Scalar.Formed ∧
      ({} : StructuredStyle).line .standard (countingRecord (Nat.pow 10 Text.longestNumeral)) =
        .error .badValue := by
  have oversized : ¬ Json.HasNumeral (Nat.pow 10 Text.longestNumeral) := by
    intro numeral
    simp only [Json.HasNumeral, Int.natAbs_natCast] at numeral
    exact Nat.not_le.mpr (Json.lt_length_digits_pow Text.longestNumeral) numeral
  generalize (Nat.pow 10 Text.longestNumeral : Int) = n at oversized
  have own : (Value.map (countingRecord n).ownFields).Consists Scalar.Formed :=
    (Value.consists_object_iff [("count", .int n)]).mpr
      ⟨by simp, List.forall_mem_singleton.mpr ⟨trivial, .scalar trivial⟩⟩
  have location : (countingRecord n).location.toValue.Consists Scalar.Formed := by
    simp [countingRecord, Location.toValue, Value.consists_object_iff, Value.consists_scalar_iff, Scalar.Formed]
  have whole : (Value.map (({} : StructuredStyle).entry (countingRecord n))).Consists Scalar.Formed :=
    entry_consists (fun _ => trivial) trivial (fun _ _ => trivial) location own
      (Value.empty_consists Scalar.Formed)
  have shallow : (Value.map (({} : StructuredStyle).entry (countingRecord n))).depth = 1 := rfl
  have late : (LineStyle.structured {}).lineAt .standard (.int 1000000000000) (countingRecord 1) =
      .error .badValue := by decide +kernel
  refine ⟨late, own, Json.write_unwritable _ whole ?_ (by rw [shallow]; decide)⟩
  intro writable
  have found : Fields.get? ((({} : StructuredStyle)).entry (countingRecord n)) (.text "count") = some (.int n) := rfl
  exact oversized ((Value.consists_scalar_iff _).mp (writable.get found))

end StructuredStyle

end Log

end LaunchPolicy
