import LaunchPolicy.Proofs.Pattern.Reader

/-!
Patterns of fixed texts and runs of characters, and matches at the start of a text. What such a pattern
matches is the same wherever it stands; where the start of the text is asked for behind something that
takes a character, nothing matches.
-/

namespace LaunchPolicy

namespace Pattern

/-- A pattern matches a text from its start on, whatever is left behind the match. -/
def Opens (pattern : Pattern) (text : List Char) : Prop :=
  ∃ matched after, text = matched ++ after ∧ pattern.Matches [] matched after

/-- A fixed text, or one or more characters of a set. -/
inductive Part where
  | fixed (text : List Char)
  | run (set : CharSet)
deriving DecidableEq, Repr

namespace Part

def items : Part → List Pattern
  | fixed text => text.map fun c => one (.exactly c)
  | run set => [repeated (one set) 1 none]

def Covers : Part → List Char → Prop
  | fixed text, piece => piece = text
  | run set, piece => piece ≠ [] ∧ ∀ c ∈ piece, set.has c = true

/-- A character in no piece of a part. -/
def lacks (c : Char) : Part → Bool
  | fixed text => !text.contains c
  | run set => !set.has c

end Part

/-- A text is made of one piece for each part. -/
def Spells : List Part → List Char → Prop
  | [], text => text = []
  | part :: parts, text => ∃ piece rest, text = piece ++ rest ∧ part.Covers piece ∧ Spells parts rest

theorem matches_part (part : Part) (before matched after : List Char) :
    (sequence part.items).Matches before matched after ↔ part.Covers matched := by
  cases part with
  | run set =>
      rw [Part.items, sequence, sequence, Part.Covers, ← matches_some set before matched after]
      constructor
      · rintro ⟨piece, rest, rfl, here, rfl⟩
        simpa using here
      · intro here
        exact ⟨matched, [], by simp, by simpa using here, rfl⟩
  | fixed text =>
      rw [Part.items, Part.Covers]
      induction text generalizing before matched with
      | nil => exact Iff.rfl
      | cons c text ih =>
          rw [List.map_cons, matches_character]
          constructor
          · rintro ⟨rest, rfl, there⟩
            rw [(ih _ _).mp there]
          · rintro rfl
            exact ⟨text, rfl, (ih _ _).mpr rfl⟩

theorem matches_parts (parts : List Part) (before matched after : List Char) :
    (sequence (parts.flatMap Part.items)).Matches before matched after ↔ Spells parts matched := by
  induction parts generalizing before matched with
  | nil => exact Iff.rfl
  | cons part parts ih =>
      rw [List.flatMap_cons, matches_sequence_append, Spells]
      simp only [matches_part, ih]

theorem opens_start (items : List Pattern) (text : List Char) :
    (sequence (start :: items)).Opens text ↔
      ∃ matched after, text = matched ++ after ∧ (sequence items).Matches [] matched after := by
  constructor
  · rintro ⟨matched, after, rfl, -, rest, rfl, ⟨rfl, -⟩, there⟩
    exact ⟨rest, after, rfl, there⟩
  · rintro ⟨matched, after, rfl, there⟩
    exact ⟨matched, after, rfl, [], matched, rfl, ⟨rfl, rfl⟩, there⟩

theorem opens_parts (parts : List Part) (text : List Char) :
    (sequence (start :: parts.flatMap Part.items)).Opens text ↔
      ∃ spelled after, text = spelled ++ after ∧ Spells parts spelled := by
  simp only [opens_start, matches_parts]

/-- The start of a text is never found behind a character. -/
theorem not_matches_start_behind {set : CharSet} {items rest : List Pattern}
    (before matched after : List Char) :
    ¬ (sequence (repeated (one set) 1 none :: items ++ start :: rest)).Matches before matched after := by
  intro whole
  obtain ⟨front, back, -, first, there⟩ := (matches_sequence_append _ _ _ _ _).mp whole
  obtain ⟨piece, others, rfl, run, -⟩ := first
  obtain ⟨filled, -⟩ := (matches_some _ _ _ _).mp run
  obtain ⟨-, -, -, ⟨-, nothing⟩, -⟩ := there
  simp [filled] at nothing

theorem not_opens_start_behind {set : CharSet} {items rest : List Pattern} (text : List Char) :
    ¬ (sequence (start :: repeated (one set) 1 none :: items ++ start :: rest)).Opens text := by
  intro opens
  obtain ⟨matched, after, -, there⟩ := (opens_start _ text).mp opens
  exact not_matches_start_behind _ _ _ there

theorem spells_append (parts more : List Part) (text : List Char) :
    Spells (parts ++ more) text ↔
      ∃ front back, text = front ++ back ∧ Spells parts front ∧ Spells more back := by
  induction parts generalizing text with
  | nil => simp [Spells]
  | cons part parts ih =>
      simp only [List.cons_append, Spells, ih]
      constructor
      · rintro ⟨piece, -, rfl, covers, front, back, rfl, spells, others⟩
        exact ⟨piece ++ front, back, by simp, ⟨piece, front, rfl, covers, spells⟩, others⟩
      · rintro ⟨-, back, rfl, ⟨piece, front, rfl, covers, spells⟩, others⟩
        exact ⟨piece, front ++ back, by simp, covers, front, back, rfl, spells, others⟩

theorem not_mem_of_spells {c : Char} {parts : List Part} {text : List Char}
    (lacking : ∀ part ∈ parts, part.lacks c = true) (spells : Spells parts text) : c ∉ text := by
  induction parts generalizing text with
  | nil => simp [show text = [] from spells]
  | cons part parts ih =>
      obtain ⟨piece, rest, rfl, covers, others⟩ := spells
      obtain ⟨here, there⟩ := List.forall_mem_cons.mp lacking
      rw [List.mem_append, not_or]
      refine ⟨?_, ih there others⟩
      cases part with
      | fixed fixedText =>
          rw [show piece = fixedText from covers]
          simpa [Part.lacks] using here
      | run set =>
          intro member
          have has := covers.2 c member
          simp [Part.lacks, has] at here

/-- A text parted at the first of a kind of characters. -/
theorem first_separated {c : Char} {left other right more : List Char} (clear : c ∉ left)
    (otherClear : c ∉ other) (same : left ++ c :: right = other ++ c :: more) :
    left = other ∧ right = more := by
  rcases List.append_eq_append_iff.mp same with ⟨middle, rfl, split⟩ | ⟨middle, rfl, split⟩
  · cases middle with
    | nil => simpa using split
    | cons d middle =>
        obtain ⟨rfl, -⟩ := List.cons.inj split
        simp at otherClear
  · cases middle with
    | nil => simpa [eq_comm] using split
    | cons d middle =>
        obtain ⟨rfl, -⟩ := List.cons.inj split
        simp at clear

/-- A text parted at the last of a kind of characters. -/
theorem last_separated {c : Char} {left other right more : List Char} (clear : c ∉ right)
    (otherClear : c ∉ more) (same : left ++ c :: right = other ++ c :: more) :
    left = other ∧ right = more := by
  have mirrored : right.reverse ++ c :: left.reverse = more.reverse ++ c :: other.reverse := by
    simpa using congrArg List.reverse same
  obtain ⟨rights, lefts⟩ := first_separated (by simpa using clear) (by simpa using otherClear) mirrored
  exact ⟨List.reverse_injective lefts, List.reverse_injective rights⟩

/-- A text begins with a character of a set. -/
def Begins (set : CharSet) (text : List Char) : Prop := ∃ c rest, text = c :: rest ∧ set.has c = true

theorem begins_append {set : CharSet} {front : List Char} (covers : (Part.run set).Covers front)
    (rest : List Char) : Begins set (front ++ rest) := by
  obtain ⟨filled, each⟩ := covers
  obtain ⟨c, others, rfl⟩ := List.exists_cons_of_ne_nil filled
  exact ⟨c, others ++ rest, rfl, each c (by simp)⟩

theorem run_opens_iff (set : CharSet) (text : List Char) :
    (∃ front after, text = front ++ after ∧ Spells [.run set] front) ↔ Begins set text := by
  constructor
  · intro opens
    obtain ⟨front, after, rfl, piece, rest, rfl, covers, rfl⟩ := opens
    rw [List.append_nil]
    exact begins_append covers after
  · intro first
    obtain ⟨c, rest, rfl, member⟩ := first
    exact ⟨[c], rest, rfl, [c], [], rfl, ⟨by simp, by simpa using member⟩, rfl⟩

theorem spells_fixed_last (parts : List Part) (last text : List Char) :
    Spells (parts ++ [.fixed last]) text ↔ ∃ front, text = front ++ last ∧ Spells parts front := by
  rw [spells_append]
  constructor
  · intro spells
    obtain ⟨front, back, rfl, before, piece, rest, rfl, rfl, rfl⟩ := spells
    exact ⟨front, by simp, before⟩
  · intro spells
    obtain ⟨front, rfl, before⟩ := spells
    exact ⟨front, last, rfl, before, last, [], (List.append_nil _).symm, rfl, rfl⟩

end Pattern

/-- A rule, read as a pattern, matches a text from its start on. -/
def Opens (rule text : String) : Prop :=
  ∃ pattern, Pattern.read? rule.toList = some pattern ∧ pattern.Opens text.toList

end LaunchPolicy
