import LaunchPolicy.Proofs.Json.Rendered

/-!
JSON text on one line is printable ASCII, whatever the value: no character of a key or of a text, and
nothing that JSON has no form for, can break a line or leave it.
-/

namespace LaunchPolicy.Json

/-- A character between the space and the tilde. -/
def IsPrintable (c : Char) : Prop := 0x20 ≤ c.toNat ∧ c.toNat < 0x7F

instance : DecidablePred IsPrintable := fun _ => inferInstanceAs (Decidable (_ ∧ _))

/-- Text without line breaks, controls or characters outside of ASCII. -/
def Printable (cs : List Char) : Prop := ∀ c ∈ cs, IsPrintable c

instance : DecidablePred Printable := fun cs => List.decidableBAll IsPrintable cs

section Printable

variable {cs others : List Char} {c : Char}

theorem printable_nil : Printable [] := fun _ member => absurd member List.not_mem_nil

theorem printable_cons (first : IsPrintable c) (rest : Printable cs) : Printable (c :: cs) :=
  List.forall_mem_cons.mpr ⟨first, rest⟩

theorem Printable.append (front : Printable cs) (rest : Printable others) : Printable (cs ++ others) :=
  fun c member => (List.mem_append.mp member).elim (front c) (rest c)

theorem Printable.within (printable : Printable cs) (subset : others ⊆ cs) : Printable others :=
  fun c member => printable c (subset member)

theorem digit_is_printable (digit : c.isDigit = true) : IsPrintable c := by
  simp only [Char.isDigit, Bool.and_eq_true, decide_eq_true_eq, UInt32.le_iff_toNat_le] at digit
  constructor
  · exact le_trans (by decide) digit.1
  · exact lt_of_le_of_lt digit.2 (by decide)

theorem digits_printable (digital : ∀ c ∈ cs, c.isDigit = true) : Printable cs :=
  fun c member => digit_is_printable (digital c member)

end Printable

/-! Quoted texts -/

private theorem hex_digit_is_printable : ∀ digit < 16, IsPrintable (hexDigit digit) := by decide

theorem hex_padded_printable (width n : Nat) : Printable (hexPadded width n) := by
  induction width generalizing n with
  | zero => exact printable_nil
  | succ width ih =>
      have last := hex_digit_is_printable (n % 16) (Nat.mod_lt n (by decide))
      exact (ih (n / 16)).append (printable_cons last printable_nil)

theorem escape_unit_printable (unit : Nat) : Printable (escapeUnit unit) :=
  printable_cons (by decide) (printable_cons (by decide) (hex_padded_printable 4 unit))

/-- A character stands for itself only if it is printable, and its escape is printable. -/
theorem escape_char_printable (c : Char) : Printable (escapeChar c) := by
  have pair (escaped : Char) (printable : IsPrintable escaped) : Printable ['\\', escaped] :=
    printable_cons (by decide) (printable_cons printable printable_nil)
  rw [escapeChar]
  split
  · exact pair _ (by decide)
  split
  · exact pair _ (by decide)
  split
  · exact pair _ (by decide)
  split
  · exact pair _ (by decide)
  split
  · exact pair _ (by decide)
  split
  · exact pair _ (by decide)
  split
  · exact pair _ (by decide)
  split
  · rename_i printable
    exact printable_cons printable printable_nil
  · intro other member
    obtain ⟨unit, -, inside⟩ := List.mem_flatMap.mp member
    exact escape_unit_printable unit other inside

theorem escape_point_printable (point : Point) : Printable (escapePoint point) := by
  cases point with
  | char c => exact escape_char_printable c
  | half h => exact escape_unit_printable h.code

theorem quote_printable (t : Text) : Printable (quote t) := by
  refine Printable.append (printable_cons (by decide) ?_) (printable_cons (by decide) printable_nil)
  intro other member
  obtain ⟨point, -, inside⟩ := List.mem_flatMap.mp member
  exact escape_point_printable point other inside

/-! Numbers -/

theorem int_printable (n : Int) : Printable (toString n).toList := by
  rw [int_text]
  split
  · exact printable_cons (by decide) (digits_printable (to_digits_digital _))
  · exact digits_printable (to_digits_digital _)

theorem nat_printable (n : Nat) : Printable (toString n).toList :=
  digits_printable (Nat.toList_repr (n := n) ▸ to_digits_digital n)

/-- Leaving out the last zeros leaves digits. -/
theorem shortest_printable (mantissa : Nat) (exponent : Int) :
    Printable (Binary64.shortest mantissa exponent).digits := by
  intro c member
  exact nat_printable _ c (List.mem_reverse.mp
    ((List.dropWhile_suffix _).subset (List.mem_reverse.mp member)))

theorem exponent_printable (power : Int) : Printable (Binary64.exponentText power) := by
  obtain ⟨digits, form, digital, -⟩ := exponent_text_form power
  rw [form]
  refine printable_cons (by decide) (printable_cons ?_ (digits_printable digital))
  split <;> decide

theorem layout_printable {d : Binary64.Decimal} (digits : Printable d.digits) : Printable d.layout := by
  have zeros (count : Nat) : Printable (List.replicate count '0') := digits_printable (zeros_digital count)
  rw [Binary64.Decimal.layout]
  split
  · split
    · exact Printable.append (Printable.append (by decide) (zeros _)) digits
    · simp only
      split
      · exact (digits.append (zeros _)).append (by decide)
      · exact (digits.within (List.take_subset _ _)).append
          (printable_cons (by decide) (digits.within (List.drop_subset _ _)))
  · split
    · exact printable_nil
    · rename_i lead form
      exact printable_cons (digits lead (by simp [form])) (exponent_printable _)
    · rename_i lead rest _ form
      rw [form] at digits
      obtain ⟨first, others⟩ := List.forall_mem_cons.mp digits
      exact (printable_cons first (printable_cons (by decide) others)).append (exponent_printable _)

theorem float_printable (x : Binary64) : Printable (x.text numberSpelling).toList := by
  have signed (negative : Bool) {body : List Char} (printable : Printable body) :
      Printable (String.ofList (if negative then '-' :: body else body)).toList := by
    rw [String.toList_ofList]
    split
    · exact printable_cons (by decide) printable
    · exact printable
  cases x with
  | notANumber => exact (by decide : Printable "NaN".toList)
  | infinite negative => exact signed negative (by decide : Printable "Infinity".toList)
  | finite negative mantissa exponent =>
      rw [Binary64.text]
      simp only
      split
      · exact signed negative (by decide : Printable ['0', '.', '0'])
      · exact signed negative (layout_printable (shortest_printable mantissa exponent))

/-! Values -/

theorem render_scalar_printable (s : Scalar) : Printable (renderScalar s) := by
  rw [renderScalar.eq_def]
  split
  · exact (by decide : Printable "null".toList)
  · exact (by decide : Printable "true".toList)
  · exact (by decide : Printable "false".toList)
  · exact int_printable _
  · exact float_printable _
  · exact quote_printable _
  · exact quote_printable _

theorem render_key_printable (s : Scalar) : Printable (renderKey s) := by
  rw [renderKey.eq_def]
  split
  · exact quote_printable _
  · split
    all_goals first | exact quote_printable _ | exact render_scalar_printable _

theorem joined_printable (level : Nat) {items : List (List Char)} (each : ∀ item ∈ items, Printable item) :
    Printable (joined .compact level items) := by
  have separated : Printable [',', ' '] := by decide
  induction items with
  | nil => exact printable_nil
  | cons item rest ih =>
      obtain ⟨first, others⟩ := List.forall_mem_cons.mp each
      cases rest with
      | nil => exact (joined_single .compact level item).symm ▸ first
      | cons next rest =>
          rw [joined_cons]
          exact first.append (Printable.append separated (ih others))

theorem bracket_printable (level : Nat) {opening closing : Char} {items : List (List Char)}
    (opens : IsPrintable opening) (closes : IsPrintable closing) (each : ∀ item ∈ items, Printable item) :
    Printable (bracket .compact level opening closing items) := by
  cases items with
  | nil => exact printable_cons opens (printable_cons closes printable_nil)
  | cons item items =>
      rw [← List.append_nil (bracket ..), bracket_cons]
      refine printable_cons opens (Printable.append printable_nil ((joined_printable _ each).append ?_))
      exact Printable.append printable_nil (printable_cons closes printable_nil)

mutual

theorem render_at_printable (level : Nat) (v : Value) : Printable (renderAt .compact level v) := by
  cases v with
  | scalar s => exact render_scalar_printable s
  | list items => exact bracket_printable level (by decide) (by decide) (render_items_printable _ items)
  | pair first second =>
      refine bracket_printable level (by decide) (by decide) ?_
      simp only [List.forall_mem_cons]
      exact ⟨render_at_printable _ first, render_at_printable _ second, by simp⟩
  | set members => exact quote_printable _
  | map fields => exact bracket_printable level (by decide) (by decide) (render_fields_printable _ fields)

theorem render_items_printable (level : Nat) (items : List Value) :
    ∀ item ∈ renderItems .compact level items, Printable item := by
  cases items with
  | nil => simp [renderItems]
  | cons item items =>
      exact List.forall_mem_cons.mpr ⟨render_at_printable level item, render_items_printable level items⟩

theorem render_fields_printable (level : Nat) (fields : List (Scalar × Value)) :
    ∀ field ∈ renderFields .compact level fields, Printable field := by
  cases fields with
  | nil => simp [renderFields]
  | cons field fields =>
      have separated : Printable (':' :: ' ' :: renderAt .compact level field.2) :=
        printable_cons (by decide) (printable_cons (by decide) (render_at_printable level field.2))
      exact List.forall_mem_cons.mpr
        ⟨(render_key_printable field.1).append separated, render_fields_printable level fields⟩

end

/-- A value on one line is printable ASCII. -/
theorem render_printable (v : Value) : Printable (render .compact v).toList := by
  rw [render, String.toList_ofList]
  exact render_at_printable 0 v

end LaunchPolicy.Json
