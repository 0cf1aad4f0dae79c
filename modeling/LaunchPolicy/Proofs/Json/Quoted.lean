import LaunchPolicy.Json.Reader
import LaunchPolicy.Proofs.Outcome
import Mathlib.Data.List.Chain
import Mathlib.Tactic.SplitIfs

/-!
Texts between quotes. Every point is read back from what is written for it: itself, a short escape,
one `\u` escape, or the two escapes of a surrogate pair. The exceptions are two halves that stand
in the text like a pair: their escapes are read as the one character.
-/

namespace LaunchPolicy.Json

open Outcome (bind_ok_iff)

private theorem hex_value_digit : ∀ digit < 16, hexValue? (hexDigit digit) = some digit := by decide

theorem read_unit_hex {unit : Nat} (bound : unit < 0x10000) (rest : List Char) :
    readUnit (hexPadded 4 unit ++ rest) = .ok (unit, rest) := by
  have digits : hexPadded 4 unit = [hexDigit (unit / 16 / 16 / 16 % 16),
      hexDigit (unit / 16 / 16 % 16), hexDigit (unit / 16 % 16), hexDigit (unit % 16)] := rfl
  have value : ((unit / 16 / 16 / 16 % 16 * 16 + unit / 16 / 16 % 16) * 16 +
      unit / 16 % 16) * 16 + unit % 16 = unit := by omega
  rw [digits]
  simp only [List.cons_append, List.nil_append, readUnit,
    hex_value_digit _ (Nat.mod_lt _ (by decide : 0 < 16)), value]

/-- Characters have no number among the surrogates. -/
private theorem char_range (c : Char) :
    c.toNat < 0xD800 ∨ 0xDFFF < c.toNat ∧ c.toNat < 0x110000 := c.valid

/-- What has no escape in front that is read as the second of a pair. -/
inductive Unpaired : List Char → Prop
  | other {cs : List Char} (none : ∀ after, cs ≠ '\\' :: 'u' :: after) : Unpaired cs
  | unit {unit : Nat} (bound : unit < 0x10000) (notLow : ¬ (0xDC00 ≤ unit ∧ unit < 0xE000))
      (rest : List Char) : Unpaired (escapeUnit unit ++ rest)

/-- The escape of a unit that is not joined with what follows is read as the point of the unit. -/
theorem read_escape_unit {unit : Nat} (bound : unit < 0x10000) {rest : List Char}
    (alone : 0xD800 ≤ unit ∧ unit < 0xDC00 → Unpaired rest) :
    readEscapedUnits (hexPadded 4 unit ++ rest) = .ok (Point.ofCode unit, rest) := by
  rw [readEscapedUnits, read_unit_hex bound]
  change (if 0xD800 ≤ unit ∧ unit < 0xDC00 then _ else _) = _
  split
  · rename_i high
    cases alone high with
    | other none =>
        split
        · exact absurd rfl (none _)
        · rfl
    | @unit second secondBound notLow rest =>
        simp only [escapeUnit, List.cons_append]
        rw [read_unit_hex secondBound]
        exact if_neg notLow
  · rfl

theorem read_escape_basic {c : Char} (basic : c.toNat < 0x10000) (rest : List Char) :
    readEscapedUnits (hexPadded 4 c.toNat ++ rest) = .ok (.char c, rest) := by
  have range := char_range c
  rw [read_escape_unit basic fun high => absurd high (by omega)]
  exact congrArg (fun point => Except.ok (point, rest)) (Point.of_code_code (.char c))

private theorem read_surrogates {high low : Nat} (highRange : 0xD800 ≤ high ∧ high < 0xDC00)
    (lowRange : 0xDC00 ≤ low ∧ low < 0xE000) (rest : List Char) :
    readEscapedUnits (hexPadded 4 high ++ '\\' :: 'u' :: (hexPadded 4 low ++ rest)) =
      .ok (.char (Char.ofNat (0x10000 + (high - 0xD800) * 0x400 + (low - 0xDC00))), rest) := by
  rw [readEscapedUnits, read_unit_hex (by omega)]
  simp only [bind, Except.bind, if_pos highRange]
  rw [read_unit_hex (by omega)]
  simp only [if_pos lowRange]
  rfl

theorem read_escape_pair {c : Char} (beyond : 0x10000 ≤ c.toNat) (rest : List Char) :
    readEscapedUnits (hexPadded 4 (0xD800 + (c.toNat - 0x10000) / 0x400) ++
      '\\' :: 'u' :: (hexPadded 4 (0xDC00 + (c.toNat - 0x10000) % 0x400) ++ rest)) =
        .ok (.char c, rest) := by
  have range := char_range c
  rw [read_surrogates (by omega) (by omega)]
  have joined : 0x10000 + (0xD800 + (c.toNat - 0x10000) / 0x400 - 0xD800) * 0x400 +
      (0xDC00 + (c.toNat - 0x10000) % 0x400 - 0xDC00) = c.toNat := by omega
  rw [joined, Char.ofNat_toNat]

/-- What reading one more point does to what has been read of the rest. -/
def prepend (point : Point) (r : List Point × List Char) : List Point × List Char := (point :: r.1, r.2)

private theorem read_simple_escape (fuel : Nat) {escape c : Char} (rest : List Char)
    (notUnicode : escape ≠ 'u') (simple : simpleEscape? escape = some c) :
    readText (fuel + 1) ('\\' :: escape :: rest) = (readText fuel rest).map (prepend (.char c)) := by
  rw [readText.eq_def]
  simp only [show ¬ '\\' = '"' by decide, if_false, if_true, simple]
  cases readText fuel rest <;> rfl

private theorem read_unicode_escape (fuel : Nat) {point : Point} {digits rest : List Char}
    (escaped : readEscapedUnits digits = .ok (point, rest)) :
    readText (fuel + 1) ('\\' :: 'u' :: digits) = (readText fuel rest).map (prepend point) := by
  rw [readText.eq_def]
  simp only [show ¬ '\\' = '"' by decide, if_false, if_true, escaped]
  change (readText fuel rest >>= _) = _
  cases readText fuel rest <;> rfl

private theorem read_plain (fuel : Nat) {c : Char} (rest : List Char) (noQuote : c ≠ '"')
    (noEscape : c ≠ '\\') (printed : 0x20 ≤ c.toNat) :
    readText (fuel + 1) (c :: rest) = (readText fuel rest).map (prepend (.char c)) := by
  rw [readText.eq_def]
  simp only [if_neg noQuote, if_neg noEscape, if_neg (Nat.not_lt.mpr printed)]
  cases readText fuel rest <;> rfl

/-- A character is escaped by a letter, or stands as it is, or is escaped by its units. -/
theorem escape_char_cases (c : Char) :
    (∃ escape, escape ≠ 'u' ∧ simpleEscape? escape = some c ∧ escapeChar c = ['\\', escape]) ∨
      (c ≠ '"' ∧ c ≠ '\\' ∧ 0x20 ≤ c.toNat ∧ escapeChar c = [c]) ∨
        escapeChar c = (units c).flatMap escapeUnit := by
  unfold escapeChar
  split_ifs with quote backslash lineFeed carriageReturn tab formFeed backspace printed
  · exact .inl ⟨'"', by decide, by rw [quote]; rfl, rfl⟩
  · exact .inl ⟨'\\', by decide, by rw [backslash]; rfl, rfl⟩
  · exact .inl ⟨'n', by decide, by rw [lineFeed]; rfl, rfl⟩
  · exact .inl ⟨'r', by decide, by rw [carriageReturn]; rfl, rfl⟩
  · exact .inl ⟨'t', by decide, by rw [tab]; rfl, rfl⟩
  · exact .inl ⟨'f', by decide, by rw [formFeed]; rfl, rfl⟩
  · exact .inl ⟨'b', by decide, by rw [backspace]; rfl, rfl⟩
  · exact .inr (.inl ⟨quote, backslash, printed.1, rfl⟩)
  · exact .inr (.inr rfl)

/-- The escape of a character is read as the character, whatever follows. -/
theorem read_escape_char (fuel : Nat) (c : Char) (rest : List Char) :
    readText (fuel + 1) (escapeChar c ++ rest) = (readText fuel rest).map (prepend (.char c)) := by
  rcases escape_char_cases c with
    ⟨escape, notUnicode, simple, escaped⟩ | ⟨noQuote, noEscape, printed, escaped⟩ | escaped
  · rw [escaped]
    exact read_simple_escape fuel rest notUnicode simple
  · rw [escaped]
    exact read_plain fuel rest noQuote noEscape printed
  rw [escaped, units]
  split
  · rename_i basic
    simp only [List.flatMap_cons, List.flatMap_nil, List.append_nil, escapeUnit, List.cons_append]
    exact read_unicode_escape fuel (read_escape_basic basic rest)
  · rename_i beyond
    simp only [List.flatMap_cons, List.flatMap_nil, List.append_nil, escapeUnit, List.cons_append,
      List.append_assoc]
    exact read_unicode_escape fuel (read_escape_pair (Nat.not_lt.mp beyond) rest)

theorem half_code_bound (h : Half) : h.code < 0x10000 := by
  cases h <;> simp only [Half.code] <;> omega

/-- The escape of a point is read as the point, unless it is the first of a pair. -/
theorem read_escape_point (fuel : Nat) (point : Point) {rest : List Char}
    (alone : (∃ n, point = .half (.high n)) → Unpaired rest) :
    readText (fuel + 1) (escapePoint point ++ rest) = (readText fuel rest).map (prepend point) := by
  cases point with
  | char c => exact read_escape_char fuel c rest
  | half h =>
      have read : readEscapedUnits (hexPadded 4 h.code ++ rest) = .ok (Point.ofCode h.code, rest) := by
        refine read_escape_unit (half_code_bound h) fun high => ?_
        cases h with
        | high n => exact alone ⟨n, rfl⟩
        | low n =>
            simp only [Half.code] at high
            omega
      rw [show Point.ofCode h.code = .half h from Point.of_code_code (.half h)] at read
      exact read_unicode_escape fuel read

/-- After the escape of a point that is no low half nothing is taken for the second of a pair. -/
theorem unpaired_escaped {point : Point} (notLow : ∀ n, point ≠ .half (.low n)) (rest : List Char) :
    Unpaired (escapePoint point ++ rest) := by
  cases point with
  | half h =>
      cases h with
      | high n => exact .unit (half_code_bound (.high n)) (by simp only [Half.code]; omega) rest
      | low n => exact absurd rfl (notLow n)
  | char c =>
      have range := char_range c
      rw [escapePoint]
      rcases escape_char_cases c with ⟨escape, notUnicode, -, escaped⟩ | ⟨-, noEscape, -, escaped⟩ | escaped
      · rw [escaped]
        exact .other fun after same => notUnicode (List.cons.inj (List.cons.inj same).2).1
      · rw [escaped]
        exact .other fun after same => noEscape (List.cons.inj same).1
      · rw [escaped, units]
        split
        · rename_i basic
          rw [List.flatMap_cons, List.flatMap_nil, List.append_nil]
          exact .unit basic (by omega) rest
        · rw [List.flatMap_cons, List.append_assoc]
          exact .unit (by omega) (by omega) _

/-- Two points that together stand like the halves of one character. -/
def joins : Point → Point → Bool
  | .half (.high _), .half (.low _) => true
  | _, _ => false

/-- No two of the points stand like the halves of one character. -/
def Apart (points : List Point) : Prop := points.IsChain fun first second => joins first second = false

instance (points : List Point) : Decidable (Apart points) := inferInstanceAs (Decidable (List.IsChain _ _))

theorem read_text_escaped {points : List Point} (apart : Apart points) (rest : List Char) (fuel : Nat)
    (enough : points.length < fuel) :
    readText fuel (points.flatMap escapePoint ++ '"' :: rest) = .ok (points, rest) := by
  induction points generalizing fuel with
  | nil =>
      obtain ⟨fuel, rfl⟩ := Nat.exists_eq_add_one.mpr (Nat.zero_lt_of_lt enough)
      rfl
  | cons point points ih =>
      obtain ⟨fuel, rfl⟩ := Nat.exists_eq_add_one.mpr (Nat.zero_lt_of_lt enough)
      have alone : (∃ n, point = .half (.high n)) →
          Unpaired (points.flatMap escapePoint ++ '"' :: rest) := by
        rintro ⟨n, rfl⟩
        cases points with
        | nil => exact .other (by simp)
        | cons second points =>
            rw [List.flatMap_cons, List.append_assoc]
            refine unpaired_escaped (fun low => ?_) _
            rintro rfl
            exact absurd (List.isChain_cons_cons.mp apart).1 (by simp [joins])
      rw [List.flatMap_cons, List.append_assoc, read_escape_point fuel point alone,
        ih (List.IsChain.tail apart) fuel (by simpa using enough)]
      rfl

theorem escape_point_ne_nil (point : Point) : escapePoint point ≠ [] := by
  cases point with
  | char c =>
      rcases escape_char_cases c with ⟨escape, -, -, escaped⟩ | ⟨-, -, -, escaped⟩ | escaped
      all_goals rw [escapePoint, escaped]
      · exact List.cons_ne_nil _ _
      · exact List.cons_ne_nil _ _
      · unfold units
        split <;> exact List.cons_ne_nil _ _
  | half h => exact List.cons_ne_nil _ _

theorem length_le_escaped (points : List Point) :
    points.length ≤ (points.flatMap escapePoint).length := by
  induction points with
  | nil => simp
  | cons point points ih =>
      have some := List.length_pos_iff.mpr (escape_point_ne_nil point)
      simp only [List.flatMap_cons, List.length_append, List.length_cons]
      omega

/-- A quoted text is read up to its closing quote; the fuel is what the reader gives itself. -/
theorem read_text_quoted {points : List Point} (apart : Apart points) (rest : List Char) :
    readText ((points.flatMap escapePoint ++ '"' :: rest).length + 1)
      (points.flatMap escapePoint ++ '"' :: rest) = .ok (points, rest) := by
  apply read_text_escaped apart
  have bound := length_le_escaped points
  simp only [List.length_append]
  omega

/-! What is read of any text between quotes -/

/-- An escape in front is that of a low half. -/
def OpensLow (cs : List Char) : Prop :=
  ∃ digits unit rest, cs = '\\' :: 'u' :: digits ∧ readUnit digits = .ok (unit, rest) ∧
    0xDC00 ≤ unit ∧ unit < 0xE000

theorem of_code_low {code : Nat} {n : Fin 0x400} (low : Point.ofCode code = .half (.low n)) :
    0xDC00 ≤ code ∧ code < 0xE000 := by
  rw [Point.ofCode] at low
  split_ifs at low with high range
  · cases Point.half.inj low
  · exact range

theorem of_code_high {code : Nat} {n : Fin 0x400} (high : Point.ofCode code = .half (.high n)) :
    0xD800 ≤ code ∧ code < 0xDC00 := by
  rw [Point.ofCode] at high
  split_ifs at high with range low
  · exact range
  · cases Point.half.inj high

/-- A half is read of one escape; a high half only where no low half is escaped behind it. -/
theorem read_escaped_half {digits rest : List Char} {h : Half}
    (read : readEscapedUnits digits = .ok (.half h, rest)) :
    ∃ unit, readUnit digits = .ok (unit, rest) ∧ Point.ofCode unit = .half h ∧
      (0xD800 ≤ unit ∧ unit < 0xDC00 → ¬ OpensLow rest) := by
  obtain ⟨⟨unit, behind⟩, first, read⟩ := bind_ok_iff.mp read
  simp only at read
  split at read
  · split at read
    · rename_i after
      obtain ⟨⟨second, afterPair⟩, again, read⟩ := bind_ok_iff.mp read
      simp only at read
      split at read
      · cases Except.ok.inj read
      · rename_i notLow
        obtain ⟨point, rfl⟩ := Prod.mk.inj (Except.ok.inj read)
        refine ⟨unit, first, point, ?_⟩
        rintro - ⟨_, other, _, ⟨⟩, same, low⟩
        obtain ⟨rfl, -⟩ := Prod.mk.inj (Except.ok.inj (again.symm.trans same))
        exact notLow low
    · rename_i none
      obtain ⟨point, rfl⟩ := Prod.mk.inj (Except.ok.inj read)
      refine ⟨unit, first, point, ?_⟩
      rintro - ⟨after, _, _, rfl, -⟩
      exact none after rfl
  · rename_i notHigh
    obtain ⟨point, rfl⟩ := Prod.mk.inj (Except.ok.inj read)
    exact ⟨unit, first, point, fun high => absurd high notHigh⟩

/-- What is read in front of a text and what is read behind it. -/
theorem read_text_cases {fuel : Nat} {cs after : List Char} {points : List Point}
    (read : readText (fuel + 1) cs = .ok (points, after)) :
    points = [] ∨
      (∃ c part more, points = .char c :: more ∧ readText fuel part = .ok (more, after)) ∨
        ∃ digits point part more, cs = '\\' :: 'u' :: digits ∧
          readEscapedUnits digits = .ok (point, part) ∧ points = point :: more ∧
          readText fuel part = .ok (more, after) := by
  have behind {point : Point} {part : List Char}
      (read : (readText fuel part >>= fun read => .ok (point :: read.1, read.2)) = .ok (points, after)) :
      ∃ more, points = point :: more ∧ readText fuel part = .ok (more, after) := by
    obtain ⟨⟨more, _⟩, rest, same⟩ := bind_ok_iff.mp read
    obtain ⟨rfl, rfl⟩ := Prod.mk.inj (Except.ok.inj same)
    exact ⟨more, rfl, rest⟩
  cases cs with
  | nil => contradiction
  | cons c rest =>
      rw [readText.eq_def] at read
      simp only at read
      split at read
      · exact .inl (Prod.mk.inj (Except.ok.inj read)).1.symm
      · split at read
        · rename_i escape
          split at read
          · rename_i digits
            obtain ⟨⟨point, part⟩, escaped, read⟩ := bind_ok_iff.mp read
            obtain ⟨more, form, read⟩ := behind read
            exact .inr (.inr ⟨digits, point, part, more, escape ▸ rfl, escaped, form, read⟩)
          · split at read
            · obtain ⟨more, form, read⟩ := behind read
              exact .inr (.inl ⟨_, _, more, form, read⟩)
            · contradiction
          · contradiction
        · split at read
          · contradiction
          · obtain ⟨more, form, read⟩ := behind read
            exact .inr (.inl ⟨c, rest, more, form, read⟩)

theorem opens_low_of_read {fuel : Nat} {cs after : List Char} {points : List Point} {n : Fin 0x400}
    (read : readText fuel cs = .ok (.half (.low n) :: points, after)) : OpensLow cs := by
  cases fuel with
  | zero => contradiction
  | succ fuel =>
      rcases read_text_cases read with none | ⟨c, _, _, form, -⟩ | ⟨digits, point, part, more, rfl, escaped, form, -⟩
      · contradiction
      · simp at form
      · obtain ⟨rfl, rfl⟩ := List.cons.inj form
        obtain ⟨unit, first, half, -⟩ := read_escaped_half escaped
        exact ⟨digits, unit, part, rfl, first, of_code_low half⟩

/-- Escapes of two halves that stand like a pair are read as one character, so that nothing that is read
has halves that stand so. -/
theorem read_text_apart {fuel : Nat} {cs after : List Char} {points : List Point}
    (read : readText fuel cs = .ok (points, after)) : Apart points := by
  induction fuel generalizing cs points with
  | zero => contradiction
  | succ fuel ih =>
      rcases read_text_cases read with rfl | ⟨c, part, more, rfl, rest⟩ |
        ⟨digits, point, part, more, -, escaped, rfl, rest⟩
      · exact .nil
      · exact List.isChain_cons.mpr ⟨fun _ _ => rfl, ih rest⟩
      · refine List.isChain_cons.mpr ⟨fun second next => ?_, ih rest⟩
        obtain ⟨others, rfl⟩ : ∃ others, more = second :: others := List.head?_eq_some_iff.mp next
        cases point with
        | char c => rfl
        | half h =>
            obtain ⟨unit, -, half, alone⟩ := read_escaped_half escaped
            cases h with
            | low n => rfl
            | high n =>
                have unopened := alone (of_code_high half)
                cases second with
                | char c => rfl
                | half h =>
                    cases h with
                    | high m => rfl
                    | low m => exact absurd (opens_low_of_read rest) unopened

end LaunchPolicy.Json
