import LaunchPolicy.Proofs.Pattern.Reader

/-!
Texts in which only dots have a meaning of their own. Such a text, between anchors, admits the texts
that differ from it at its dots alone; so it admits itself and nothing else just when it has no dots.
-/

namespace LaunchPolicy.Pattern

/-- The characters with a meaning of their own, but for braces around numbers. -/
def special : List Char := ['.', '^', '$', '*', '+', '?', '(', ')', '|', '[', '\\']

/-- No number of repetitions can begin here. -/
def NoCount : List Char → Prop
  | [] => True
  | c :: _ => ¬ (c.isDigit = true ∨ c = ',')

/-- No brace opens a number of repetitions. -/
def Uncounted : List Char → Prop
  | [] => True
  | c :: rest => (c = '{' → NoCount rest) ∧ Uncounted rest

def IsPlain (text : List Char) : Prop := ∀ c ∈ text, c ∉ special

/-- No character but the dot has a meaning of its own. -/
def IsDotted (text : List Char) : Prop := ∀ c ∈ text, c ∈ special → c = '.'

instance : ∀ rest, Decidable (NoCount rest)
  | [] => isTrue trivial
  | c :: _ => inferInstanceAs (Decidable (¬ (c.isDigit = true ∨ c = ',')))

instance decideUncounted : ∀ text, Decidable (Uncounted text)
  | [] => isTrue trivial
  | c :: rest =>
      have := decideUncounted rest
      inferInstanceAs (Decidable ((c = '{' → NoCount rest) ∧ Uncounted rest))

instance (text : List Char) : Decidable (IsPlain text) :=
  List.decidableBAll (fun c => c ∉ special) text

instance (text : List Char) : Decidable (IsDotted text) :=
  List.decidableBAll (fun c => c ∈ special → c = '.') text

/-- A text is another one but for the dots of the first, each of which is any character of a line. -/
def Fills (dotted text : List Char) : Prop :=
  List.Forall₂ (fun c d => if c = '.' then d ≠ '\n' else d = c) dotted text

instance (dotted text : List Char) : Decidable (Fills dotted text) :=
  inferInstanceAs (Decidable (List.Forall₂ _ dotted text))

/-- What a character of a dotted text matches. -/
def setOf (c : Char) : CharSet := if c = '.' then .inLine else .exactly c

theorem set_of_has (c d : Char) :
    (setOf c).has d = true ↔ if c = '.' then d ≠ '\n' else d = c := by
  unfold setOf
  split
  · exact CharSet.in_line_has d
  · exact CharSet.exactly_has c d

/-- Between items, where at most a brace is left that cannot open a number any more. -/
def Mode.Ready (rest : List Char) (mode : Mode) : Prop :=
  mode = .plain ∨ mode = .braces [] ∧ NoCount rest

namespace Reader

variable {reader : Reader} {text rest : List Char} {c : Char}

theorem settle_plain (plain : reader.mode = .plain) : reader.settle = reader := by
  rw [settle, plain]

theorem step_ready (ready : reader.mode.Ready (c :: rest)) :
    reader.step? c = reader.settle.plainStep? c := by
  rcases ready with plain | ⟨braces, noCount⟩
  · rw [settle_plain plain, step?, plain]
  · -- a brace that opens no number is left behind as it is
    have noDigit : ¬ (c.isDigit = true ∨ c = ',') := noCount
    have unbounded : (if c = '}' then bounds? [] else none) = none := by
      split <;> rfl
    simp only [step?, braces, bracesStep?, if_neg noDigit, List.reverse_nil, unbounded]

/-- A dotted text adds an item for each of its characters. -/
theorem plain_step_dotted (reader : Reader) (dotted : c ∈ special → c = '.')
    (uncounted : c = '{' → NoCount rest) :
    ∃ next, reader.plainStep? c = some next ∧ next.settle = reader.push (.one (setOf c)) ∧
      next.mode.Ready rest := by
  by_cases brace : c = '{'
  · subst brace
    exact ⟨{ reader with mode := .braces [] }, rfl, rfl, .inr ⟨rfl, uncounted rfl⟩⟩
  · refine ⟨reader.push (.one (setOf c)), ?_, rfl, .inl rfl⟩
    by_cases dot : c = '.'
    · subst dot
      rfl
    · have ordinary : c ∉ special := fun special => dot (dotted special)
      simp only [special, List.mem_cons, List.not_mem_nil, or_false, not_or] at ordinary
      rw [setOf, if_neg dot]
      unfold plainStep?
      split <;> first | rfl | simp_all

theorem reads_dotted (ready : reader.mode.Ready text) (dotted : IsDotted text)
    (uncounted : Uncounted text) :
    ∃ last, text.foldlM step? reader = some last ∧ last.mode.Ready [] ∧
      last.settle = reader.settle.pushAll (text.map fun c => one (setOf c)) := by
  induction text generalizing reader with
  | nil => exact ⟨reader, rfl, ready, rfl⟩
  | cons c text ih =>
      obtain ⟨here, others⟩ := List.forall_mem_cons.mp dotted
      obtain ⟨next, stepped, settled, nextReady⟩ :=
        plain_step_dotted reader.settle here uncounted.1
      obtain ⟨last, ran, lastReady, lastSettled⟩ := ih nextReady others uncounted.2
      refine ⟨last, ?_, lastReady, ?_⟩
      · rw [List.foldlM_cons, step_ready ready, stepped]
        exact ran
      · rw [lastSettled, settled]
        rfl

theorem group_of_push_all (reader : Reader) (items : List Pattern) :
    (reader.pushAll items).outer = reader.outer ∧ (reader.pushAll items).group =
      { reader.group with items := items.reverse ++ reader.group.items } := by
  induction items generalizing reader with
  | nil => exact ⟨rfl, rfl⟩
  | cons item items ih =>
      obtain ⟨outer, group⟩ := ih (reader.push item)
      refine ⟨outer, group.trans ?_⟩
      simp [push, Group.push]

end Reader

theorem read_dotted_end {start text : List Char} {items : List Pattern}
    (opened : start.foldlM Reader.step? {} = some { group := { items } }) (dotted : IsDotted text)
    (uncounted : Uncounted text) :
    read? (start ++ text ++ ['$']) =
      some (.sequence (items.reverse ++ (text.map fun c => one (setOf c)) ++ [stop])) := by
  let opening : Reader := { group := { items } }
  have opens : opening.mode.Ready text := .inl rfl
  have settles : opening.settle = opening := rfl
  obtain ⟨last, ran, ready, settled⟩ := Reader.reads_dotted opens dotted uncounted
  rw [settles] at settled
  have ended : last.step? '$' = some (last.settle.push .stop) := by
    have noCount : NoCount ['$'] := by decide
    have closes : last.mode.Ready ['$'] := ready.imp_right fun brace => ⟨brace.1, noCount⟩
    rw [Reader.step_ready closes]
    rfl
  obtain ⟨outer, group⟩ := opening.group_of_push_all (text.map fun c => one (setOf c))
  rw [read?, List.foldlM_append, List.foldlM_append, opened]
  change (text.foldlM Reader.step? opening >>= fun reader => ['$'].foldlM Reader.step? reader).bind
    Reader.finish? = _
  simp only [ran, Option.bind_eq_bind, Option.bind_some, List.foldlM_cons, List.foldlM_nil, ended]
  change (last.settle.push .stop).finish? = _
  have closed : (last.settle.push .stop).finish? = some (last.settle.group.push .stop).pattern := by
    have there : (last.settle.push .stop).settle.outer = [] :=
      (congrArg Reader.outer settled).trans outer
    unfold Reader.finish?
    rw [there]
    rfl
  rw [closed, settled, group]
  simp [Group.push, Group.pattern, Group.alternative, opening]

theorem matches_dotted (text before matched after : List Char) :
    (sequence (text.map fun c => one (setOf c))).Matches before matched after ↔
      Fills text matched := by
  have sets : (text.map fun c => one (setOf c)) = (text.map setOf).map one := by simp
  rw [sets, matches_ones, List.forall₂_map_left_iff]
  simp only [set_of_has, Fills]

theorem matches_stop_end (items : List Pattern) (before matched after : List Char) :
    (sequence (items ++ [stop])).Matches before matched after ↔
      after = [] ∧ (sequence items).Matches before matched [] := by
  rw [matches_sequence_append]
  constructor
  · rintro ⟨left, right, rfl, here, -, rest, rfl, ⟨rfl, ended⟩, rfl⟩
    obtain rfl : after = [] := ended
    simpa using here
  · rintro ⟨rfl, here⟩
    exact ⟨matched, [], by simp, here, [], [], rfl, ⟨rfl, rfl⟩, rfl⟩

theorem accepts_dotted_end {text : List Char} {items : List Pattern} (other : List Char) :
    (sequence (items ++ (text.map fun c => one (setOf c)) ++ [stop])).Accepts other ↔
      ∃ before left right, other = before ++ left ++ right ∧
        (sequence items).Matches before left right ∧ Fills text right := by
  constructor
  · rintro ⟨before, matched, after, rfl, whole⟩
    obtain ⟨rfl, ended⟩ := (matches_stop_end _ _ _ _).mp whole
    obtain ⟨left, right, rfl, start, fills⟩ := (matches_sequence_append _ _ _ _ _).mp ended
    rw [matches_dotted] at fills
    exact ⟨before, left, right, by simp, by simpa using start, fills⟩
  · rintro ⟨before, left, right, rfl, start, fills⟩
    refine ⟨before, left ++ right, [], by simp, ?_⟩
    rw [matches_stop_end, matches_sequence_append]
    refine ⟨rfl, left, right, rfl, by simpa using start, ?_⟩
    rw [matches_dotted]
    exact fills

theorem IsPlain.dotted {text : List Char} (plain : IsPlain text) : IsDotted text := by
  intro c member special
  exact absurd special (plain c member)

theorem IsDotted.plain {text : List Char} (dotted : IsDotted text) (noDot : '.' ∉ text) :
    IsPlain text := by
  intro c member special
  exact noDot (dotted c member special ▸ member)

theorem fills_plain_iff {plain text : List Char} (isPlain : IsPlain plain) :
    Fills plain text ↔ text = plain := by
  induction plain generalizing text with
  | nil => exact List.forall₂_nil_left_iff
  | cons c plain ih =>
      obtain ⟨here, rest⟩ := List.forall_mem_cons.mp isPlain
      have ordinary : c ≠ '.' := by
        rintro rfl
        exact here (by decide)
      rw [Fills, List.forall₂_cons_left_iff]
      simp only [if_neg ordinary]
      constructor
      · rintro ⟨d, others, rfl, fills, rfl⟩
        rw [(ih rest).mp fills]
      · rintro rfl
        exact ⟨c, plain, rfl, (ih rest).mpr rfl, rfl⟩

/-- A text with dots is filled by another one as well. -/
theorem fills_other {dotted : List Char} (dot : '.' ∈ dotted) :
    ∃ other, Fills dotted other ∧ other ≠ dotted := by
  refine ⟨dotted.map fun c => if c = '.' then 'x' else c, ?_, ?_⟩
  · rw [Fills, List.forall₂_map_right_iff]
    apply List.forall₂_same.mpr
    intro c member
    by_cases isDot : c = '.'
    · simp [isDot]
    · simp [isDot]
  · intro same
    have noDot : '.' ∉ dotted := by
      rw [← same]
      intro member
      obtain ⟨c, -, made⟩ := List.mem_map.mp member
      split at made
      · exact absurd made (by decide)
      · contradiction
    exact noDot dot

end Pattern

/-- A text is admitted by a rule that is read as a pattern. -/
def Admits (rule text : String) : Prop :=
  ∃ pattern, Pattern.read? rule.toList = some pattern ∧ pattern.Accepts text.toList

/-- A rule admits a text and no other. -/
def Pins (rule text : String) : Prop := ∀ other, Admits rule other ↔ other = text

theorem to_list_anchored (entry : String) :
    ("^" ++ entry ++ "$").toList = ['^'] ++ entry.toList ++ ['$'] := by
  simp

theorem anchored_admits {entry : String} (dotted : Pattern.IsDotted entry.toList)
    (uncounted : Pattern.Uncounted entry.toList) (text : String) :
    Admits ("^" ++ entry ++ "$") text ↔ Pattern.Fills entry.toList text.toList := by
  have opened : ['^'].foldlM Pattern.Reader.step? {} = some { group := { items := [.start] } } := rfl
  have reading := Pattern.read_dotted_end opened dotted uncounted
  rw [Admits, to_list_anchored, reading]
  simp only [Option.some.injEq, exists_eq_left', Pattern.accepts_dotted_end]
  constructor
  · rintro ⟨before, -, right, same, ⟨-, -, rfl, ⟨rfl, rfl⟩, rfl⟩, fills⟩
    rwa [same]
  · intro fills
    exact ⟨[], [], text.toList, rfl, ⟨[], [], rfl, ⟨rfl, rfl⟩, rfl⟩, fills⟩

/-- A dotted text between anchors admits itself alone just when it has no dots. -/
theorem anchored_dotted_pins_iff {entry : String} (dotted : Pattern.IsDotted entry.toList)
    (uncounted : Pattern.Uncounted entry.toList) :
    Pins ("^" ++ entry ++ "$") entry ↔ '.' ∉ entry.toList := by
  constructor
  · intro pins dot
    obtain ⟨other, fills, different⟩ := Pattern.fills_other dot
    have admitted := (anchored_admits dotted uncounted (String.ofList other)).mpr (by simpa using fills)
    have same := (pins _).mp admitted
    exact different (by simp [← same])
  · intro noDot other
    rw [anchored_admits dotted uncounted, Pattern.fills_plain_iff (dotted.plain noDot),
      String.toList_inj]

end LaunchPolicy
