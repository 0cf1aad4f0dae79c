import LaunchPolicy.Proofs.Text.Numeral

/-!
Which texts are integers: runs of decimal digits in which single underscores may stand between two
digits, behind a sign or none, with white space around them, unless the run is too long. The main
statement is that these texts are read, each as its number, and no others.
-/

namespace LaunchPolicy.Text

/-- Digits and the numbers that they stand for; an underscore may stand between two of them. -/
inductive DigitRun : List Char → List Nat → Prop
  | last {c : Char} {digit : Nat} (read : digitValue? c = some digit) : DigitRun [c] [digit]
  | next {c : Char} {digit : Nat} {rest : List Char} {digits : List Nat}
      (read : digitValue? c = some digit) (others : DigitRun rest digits) :
      DigitRun (c :: rest) (digit :: digits)
  | apart {c : Char} {digit : Nat} {rest : List Char} {digits : List Nat}
      (read : digitValue? c = some digit) (others : DigitRun rest digits) :
      DigitRun (c :: '_' :: rest) (digit :: digits)

/-- What may stand before the digits of a number, and whether it makes the number negative. -/
inductive Sign : List Char → Bool → Prop
  | absent : Sign [] false
  | plus : Sign ['+'] false
  | minus : Sign ['-'] true

/-- The text of an integer, with what stands around it. -/
def IsInteger (cs : List Char) (n : Int) : Prop :=
  ∃ before sign run after negative digits,
    cs = before ++ (sign ++ run) ++ after ∧
      (∀ c ∈ before, isMargin c = true) ∧ (∀ c ∈ after, isMargin c = true) ∧
      Sign sign negative ∧ DigitRun run digits ∧ digits.length ≤ longestNumeral ∧
      n = if negative then -(ofDigits 10 digits : Int) else (ofDigits 10 digits : Int)

/-! Digits are told from all other characters of a numeral -/

theorem underscore_is_no_digit : digitValue? '_' = none := by decide

private theorem digits_and_blanks_apart : ∀ start ∈ zeroDigits, ∀ range ∈ blankRanges,
    range.2 < start ∨ start + 9 < range.1 := by decide

theorem digit_is_no_margin {c : Char} {digit : Nat} (read : digitValue? c = some digit) :
    isMargin c = false := by
  obtain ⟨start, found, -⟩ := Option.map_eq_some_iff.mp read
  have within := List.find?_some found
  have listed := List.mem_of_find?_eq_some found
  rw [isMargin, Bool.and_eq_false_iff]
  left
  rw [isBlank, List.any_eq_false]
  intro range member inside
  simp only [Bool.and_eq_true, decide_eq_true_eq] at within inside
  rcases digits_and_blanks_apart start listed range member with below | above
  · omega
  · omega

theorem DigitRun.begins {run : List Char} {digits : List Nat} (isRun : DigitRun run digits) :
    ∃ c rest digit, run = c :: rest ∧ digitValue? c = some digit := by
  cases isRun with
  | last read => exact ⟨_, _, _, rfl, read⟩
  | next read => exact ⟨_, _, _, rfl, read⟩
  | apart read => exact ⟨_, _, _, rfl, read⟩

theorem DigitRun.ends {run : List Char} {digits : List Nat} (isRun : DigitRun run digits) :
    ∃ front c digit, run = front ++ [c] ∧ digitValue? c = some digit := by
  induction isRun with
  | last read => exact ⟨[], _, _, rfl, read⟩
  | next _ _ ih =>
      obtain ⟨front, c, digit, rfl, read⟩ := ih
      exact ⟨_ :: front, c, digit, rfl, read⟩
  | apart _ _ ih =>
      obtain ⟨front, c, digit, rfl, read⟩ := ih
      exact ⟨_ :: '_' :: front, c, digit, rfl, read⟩

theorem digit_run_of_read {cs : List Char} {digits : List Nat}
    (read : digitRun? digitValue? cs = some digits) : DigitRun cs digits := by
  induction cs using digitRun?.induct generalizing digits with
  | case1 => contradiction
  | case2 c =>
      obtain ⟨digit, found, rfl⟩ := Option.map_eq_some_iff.mp read
      exact .last found
  | case3 c rest ih =>
      obtain ⟨digit, found, read⟩ := Option.bind_eq_some_iff.mp read
      obtain ⟨others, run, read⟩ := Option.bind_eq_some_iff.mp read
      obtain rfl := Option.some.inj read
      exact .apart found (ih run)
  | case4 c rest notLast noGap ih =>
      rw [digitRun?] at read
      · obtain ⟨digit, found, read⟩ := Option.bind_eq_some_iff.mp read
        obtain ⟨others, run, read⟩ := Option.bind_eq_some_iff.mp read
        obtain rfl := Option.some.inj read
        exact .next found (ih run)
      · exact notLast
      · exact noGap

theorem DigitRun.is_read {cs : List Char} {digits : List Nat} (isRun : DigitRun cs digits) :
    digitRun? digitValue? cs = some digits := by
  induction isRun with
  | last read => rw [digitRun?, read, Option.map_some]
  | next read others ih =>
      obtain ⟨second, rest, digit, rfl, found⟩ := others.begins
      rw [digitRun?, read, ih]
      · rfl
      · exact List.cons_ne_nil second rest
      · rintro others same
        rw [(List.cons.inj same).1, underscore_is_no_digit] at found
        contradiction
  | apart read _ ih =>
      rw [digitRun?, read, ih]
      rfl

/-! Signs and white space -/

theorem sign_of_split (cs : List Char) :
    ∃ sign, cs = sign ++ (splitSign cs).2 ∧ Sign sign (splitSign cs).1 := by
  rw [splitSign.eq_def]
  split
  · exact ⟨['-'], rfl, .minus⟩
  · exact ⟨['+'], rfl, .plus⟩
  · exact ⟨[], rfl, .absent⟩

theorem split_sign_append {sign run : List Char} {negative : Bool} {digits : List Nat}
    (signed : Sign sign negative) (isRun : DigitRun run digits) :
    splitSign (sign ++ run) = (negative, run) := by
  cases signed with
  | plus => rfl
  | minus => rfl
  | absent =>
      obtain ⟨c, rest, digit, rfl, read⟩ := isRun.begins
      rw [List.nil_append, splitSign.eq_def]
      split
      · rename_i same
        rw [(List.cons.inj same).1] at read
        exact absurd read (by decide +revert)
      · rename_i same
        rw [(List.cons.inj same).1] at read
        exact absurd read (by decide +revert)
      · rfl

theorem trim_split (inClass : Char → Bool) (cs : List Char) :
    ∃ before after, cs = before ++ trim inClass cs ++ after ∧
      (∀ c ∈ before, inClass c = true) ∧ ∀ c ∈ after, inClass c = true := by
  refine ⟨cs.takeWhile inClass, ((cs.dropWhile inClass).reverse.takeWhile inClass).reverse, ?_, ?_, ?_⟩
  · rw [trim, List.append_assoc, ← List.reverse_append, List.takeWhile_append_dropWhile,
      List.reverse_reverse, List.takeWhile_append_dropWhile]
  · exact fun c member => List.mem_takeWhile_imp member
  · exact fun c member => List.mem_takeWhile_imp (List.mem_reverse.mp member)

theorem drop_class_append {inClass : Char → Bool} {before rest : List Char} {c : Char}
    (inside : ∀ c ∈ before, inClass c = true) (outside : inClass c = false) :
    (before ++ c :: rest).dropWhile inClass = c :: rest := by
  rw [List.dropWhile_append_of_pos inside, List.dropWhile_cons_of_neg (by simp [outside])]

/-- What begins and ends outside of a class is left when the class is trimmed around it. -/
theorem trim_append {inClass : Char → Bool} {before body after : List Char}
    (begins : ∃ c rest, body = c :: rest ∧ inClass c = false)
    (ends : ∃ front c, body = front ++ [c] ∧ inClass c = false)
    (insideBefore : ∀ c ∈ before, inClass c = true) (insideAfter : ∀ c ∈ after, inClass c = true) :
    trim inClass (before ++ body ++ after) = body := by
  obtain ⟨first, rest, rfl, outside⟩ := begins
  obtain ⟨front, last, form, outsideLast⟩ := ends
  have dropped : (before ++ (first :: rest) ++ after).dropWhile inClass = (first :: rest) ++ after := by
    rw [List.append_assoc]
    exact drop_class_append insideBefore outside
  have backwards : ((first :: rest) ++ after).reverse = after.reverse ++ last :: front.reverse := by
    rw [form]
    simp
  rw [trim, dropped, backwards,
    drop_class_append (fun c member => insideAfter c (List.mem_reverse.mp member)) outsideLast, form]
  simp

/-- A sign and a run of digits have no white space at their ends. -/
theorem margins_of_signed {sign run : List Char} {negative : Bool} {digits : List Nat}
    (signed : Sign sign negative) (isRun : DigitRun run digits) :
    (∃ c rest, sign ++ run = c :: rest ∧ isMargin c = false) ∧
      ∃ front c, sign ++ run = front ++ [c] ∧ isMargin c = false := by
  constructor
  · cases signed with
    | absent =>
        obtain ⟨c, rest, digit, rfl, read⟩ := isRun.begins
        exact ⟨c, rest, rfl, digit_is_no_margin read⟩
    | plus => exact ⟨'+', run, rfl, by decide⟩
    | minus => exact ⟨'-', run, rfl, by decide⟩
  · obtain ⟨front, c, digit, rfl, read⟩ := isRun.ends
    exact ⟨sign ++ front, c, by simp, digit_is_no_margin read⟩

/-- Reading an integer accepts the texts of integers and no others. -/
theorem integer_eq_some_iff {cs : List Char} {n : Int} : integer? cs = some n ↔ IsInteger cs n := by
  constructor
  · intro read
    obtain ⟨digits, run, read⟩ := Option.bind_eq_some_iff.mp read
    obtain ⟨_, short, read⟩ := Option.bind_eq_some_iff.mp read
    obtain ⟨before, after, form, insideBefore, insideAfter⟩ := trim_split isMargin cs
    obtain ⟨sign, body, signed⟩ := sign_of_split (withoutMargins cs)
    exact ⟨before, sign, (splitSign (withoutMargins cs)).2, after, _, digits,
      form.trans (congrArg (fun inner => before ++ inner ++ after) body), insideBefore, insideAfter,
      signed, digit_run_of_read run, by simpa [guard] using short, (Option.some.inj read).symm⟩
  · rintro ⟨before, sign, run, after, negative, digits, rfl, insideBefore, insideAfter, signed, isRun,
      short, rfl⟩
    obtain ⟨begins, ends⟩ := margins_of_signed signed isRun
    rw [integer?, withoutMargins, trim_append begins ends insideBefore insideAfter,
      split_sign_append signed isRun]
    simp [isRun.is_read, guard, short]

example : integer? " 1_0\n".toList = some 10 := by decide

end LaunchPolicy.Text
