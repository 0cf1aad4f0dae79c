import LaunchPolicy.Proofs.Pattern.Part
import LaunchPolicy.Rules.Kubelet

/-!
Addresses of four octets, and that the pattern for them matches every one that stands on its own.
-/

namespace LaunchPolicy.Kubelet

open Pattern

structure Address where
  first : UInt8
  second : UInt8
  third : UInt8
  fourth : UInt8
deriving DecidableEq, Repr

/-- In decimal, with dots. -/
def Address.text (address : Address) : String :=
  address.first.toNat.repr ++ "." ++ address.second.toNat.repr ++ "." ++
    address.third.toNat.repr ++ "." ++ address.fourth.toNat.repr

/-- From 250 on. -/
def octetHigh : List CharSet := [.exactly '2', .exactly '5', { ranges := [('0', '5')] }]

/-- What can stand before the last digit below that. -/
def octetFronts : List (List CharSet) :=
  [[.exactly '2', { ranges := [('0', '4')] }], [.exactly '1', .digit], [{ ranges := [('1', '9')] }]]

/-- One of these texts, or nothing. -/
def anyOrNone (texts : List (List CharSet)) : Pattern :=
  texts.foldr (fun sets others => .either (sequence (sets.map one)) others) empty

def octetPattern : Pattern :=
  .either (sequence (octetHigh.map one)) (sequence [anyOrNone octetFronts, one .digit])

/-- An octet and perhaps one more character, where a word begins or ends. -/
def roundPattern : Pattern :=
  sequence [octetPattern, repeated (one .inLine) 0 (some 1), boundary true]

def octetsPattern : Pattern := repeated roundPattern 4 (some 4)

/-- An address from the start of the text to its end. -/
def onlyAddress : List Pattern := [start, octetsPattern, stop]

/-- An address from the start of the text, and a port. -/
def addressAndPort : List Pattern :=
  [start, octetsPattern, one (.exactly ':'), repeated (one .digit) 1 none]

theorem any_or_none_matches {texts : List (List CharSet)} {sets : List CharSet}
    (member : sets = [] ∨ sets ∈ texts) {before matched after : List Char}
    (here : (sequence (sets.map one)).Matches before matched after) :
    (anyOrNone texts).Matches before matched after := by
  induction texts with
  | nil =>
      obtain rfl : sets = [] := by simpa using member
      exact here
  | cons first texts ih =>
      rcases member with nothing | member
      · exact .inr (ih (.inl nothing))
      · rcases List.mem_cons.mp member with rfl | later
        · exact .inl here
        · exact .inr (ih (.inr later))

/-- The digits of an octet, as the characters that they are taken from. -/
private theorem octet_sets : ∀ octet < 256,
    List.Forall₂ (fun set c => set.has c = true) octetHigh (Nat.toDigits 10 octet) ∨
    ∃ front ∈ [] :: octetFronts,
      List.Forall₂ (fun set c => set.has c = true) (front ++ [.digit]) (Nat.toDigits 10 octet) := by
  decide +kernel

theorem octet_matches (octet : UInt8) (before after : List Char) :
    octetPattern.Matches before (Nat.toDigits 10 octet.toNat) after := by
  rcases octet_sets octet.toNat octet.toNat_lt with high | ⟨front, member, digits⟩
  · exact .inl ((matches_ones _ _ _ _).mpr high)
  · have whole := (matches_ones _ before _ after).mpr digits
    rw [List.map_append, matches_sequence_append] at whole
    obtain ⟨left, right, split, first, last⟩ := whole
    exact .inr ⟨left, right, split, any_or_none_matches (List.mem_cons.mp member) first, last⟩

theorem digit_has (c : Char) : CharSet.digit.has c = true ↔ '0' ≤ c ∧ c ≤ '9' := by
  simp [CharSet.digit, CharSet.has]

theorem digits_digital {n : Nat} {c : Char} (member : c ∈ Nat.toDigits 10 n) :
    CharSet.digit.has c = true := by
  have digit := Nat.isDigit_of_mem_toDigits (by decide) (by decide) member
  rw [digit_has]
  simpa [Char.isDigit, Char.le_def] using digit

theorem digits_word {n : Nat} {c : Char} (member : c ∈ Nat.toDigits 10 n) :
    CharSet.word.has c = true := by
  have digit := (digit_has c).mp (digits_digital member)
  simp [CharSet.has, CharSet.word, digit]

theorem dot_matches (octet next : UInt8) (before after : List Char) :
    roundPattern.Matches before (Nat.toDigits 10 octet.toNat ++ ['.'])
      (Nat.toDigits 10 next.toNat ++ after) := by
  obtain ⟨c, rest, digits⟩ :=
    List.exists_cons_of_ne_nil (Nat.toDigits_ne_nil (b := 10) (n := next.toNat))
  have word : CharSet.word.has c = true := digits_word (n := next.toNat) (by simp [digits])
  refine ⟨_, ['.'], rfl, octet_matches _ _ _, ['.'], [], rfl, ?_, [], [], rfl, ⟨rfl, ?_⟩, rfl⟩
  · exact ⟨1, by simp, by simp, (times_one _ _ _ _ _).mpr (by simp [CharSet.in_line_has])⟩
  · simp [digits, word]
    decide

theorem edge_matches (octet : UInt8) (before : List Char) {after : List Char}
    (edge : after.head?.any CharSet.word.has = false) :
    roundPattern.Matches before (Nat.toDigits 10 octet.toNat) after := by
  have filled : Nat.toDigits 10 octet.toNat ≠ [] := Nat.toDigits_ne_nil
  have word : CharSet.word.has ((Nat.toDigits 10 octet.toNat).getLast filled) = true :=
    digits_word (List.getLast_mem filled)
  refine ⟨_, [], (List.append_nil _).symm, octet_matches octet _ _, [], [], rfl, ?_, [], [], rfl,
    ⟨rfl, ?_⟩, rfl⟩
  · exact ⟨0, by simp, by simp, rfl⟩
  · simpa [List.getLast?_eq_getLast_of_ne_nil filled, word] using edge

/-- An address before what begins no word. -/
theorem address_matches (address : Address) {after : List Char}
    (edge : after.head?.any CharSet.word.has = false) :
    octetsPattern.Matches [] address.text.toList after := by
  let digits (octet : UInt8) : List Char := Nat.toDigits 10 octet.toNat
  have text : address.text.toList = (digits address.first ++ ['.']) ++ ((digits address.second ++ ['.']) ++
      ((digits address.third ++ ['.']) ++ digits address.fourth)) := by
    simp [Address.text, digits]
  refine ⟨4, Nat.le_refl 4, by simp, _, _, text, ?_, _, _, rfl, ?_, _, _, rfl, ?_, _, [],
    (List.append_nil _).symm, edge_matches _ _ edge, rfl⟩
  · simpa using dot_matches address.first address.second _ _
  · simpa using dot_matches address.second address.third _ _
  · exact dot_matches address.third address.fourth _ _

private theorem host_pattern_read :
    read? (addressPattern ++ "$").toList = some (sequence onlyAddress) := by
  rfl

private theorem location_pattern_read :
    read? (addressPattern ++ ":[0-9]+").toList = some (sequence addressAndPort) := by
  rfl

theorem host_pattern_opens (address : Address) : Opens (addressPattern ++ "$") address.text := by
  refine ⟨_, host_pattern_read, (opens_start _ _).mpr ⟨address.text.toList, [], by simp, ?_⟩⟩
  exact ⟨address.text.toList, [], by simp, address_matches address rfl, [], [], rfl, ⟨rfl, rfl⟩, rfl⟩

theorem location_pattern_opens (address : Address) (port : Nat) :
    Opens (addressPattern ++ ":[0-9]+") (address.text ++ ":" ++ port.repr) := by
  have digits (before : List Char) :
      (repeated (one .digit) 1 none).Matches before (Nat.toDigits 10 port) [] :=
    (matches_some _ _ _ _).mpr ⟨Nat.toDigits_ne_nil, fun c member => digits_digital member⟩
  refine ⟨_, location_pattern_read, (opens_start _ _).mpr
    ⟨address.text.toList ++ ':' :: Nat.toDigits 10 port, [], by simp, ?_⟩⟩
  refine ⟨address.text.toList, ':' :: Nat.toDigits 10 port, rfl, address_matches address rfl, ?_⟩
  refine (matches_character ':' _ _ _ _).mpr ⟨Nat.toDigits 10 port, rfl, ?_⟩
  exact ⟨Nat.toDigits 10 port, [], by simp, digits _, rfl⟩

end LaunchPolicy.Kubelet
