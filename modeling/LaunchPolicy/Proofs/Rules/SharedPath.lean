import LaunchPolicy.Proofs.Pattern.Dotted
import LaunchPolicy.Rules.SharedPath

/-!
The paths that a rule for a shared file admits. They lie in one directory and are named by two
identifiers and the file, which is admitted as its characters are read.
-/

namespace LaunchPolicy

open Pattern

namespace SharedPath

def directory : String := "/run/kata-containers/shared/containers/"

/-- The name of a sandbox or of a container. -/
def IsIdentifier (text : List Char) : Prop :=
  text ≠ [] ∧ ∀ c ∈ text, ('a' ≤ c ∧ c ≤ 'z') ∨ ('0' ≤ c ∧ c ≤ '9')

/-- The path of a file under the name that it has there. -/
def Holds (file path : List Char) : Prop :=
  ∃ sandbox container, IsIdentifier sandbox ∧ IsIdentifier container ∧
    path = directory.toList ++ sandbox ++ '-' :: container ++ '-' :: file

def identifier : CharSet := { ranges := [('0', '9'), ('a', 'z')] }

/-- What is read from the directory and the identifiers. -/
def items : List Pattern :=
  [start] ++ (directory.toList.map fun c => one (setOf c)) ++
    [repeated (one identifier) 1 none, one (.exactly '-'),
      repeated (one identifier) 1 none, one (.exactly '-')]

theorem reading : sharedContainerPath.toList.foldlM Reader.step? {} =
    some { group := { items := items.reverse } } := by
  decide +kernel

theorem is_identifier_iff (text : List Char) :
    IsIdentifier text ↔ text ≠ [] ∧ ∀ c ∈ text, identifier.has c = true := by
  have member : ∀ c, identifier.has c = true ↔ ('a' ≤ c ∧ c ≤ 'z') ∨ ('0' ≤ c ∧ c ≤ '9') := by
    intro c
    simp [identifier, CharSet.has, or_comm]
  simp only [IsIdentifier, member]

theorem directory_plain : IsPlain directory.toList := by
  decide

/-- Two identifiers, with a hyphen after each. -/
theorem matches_identifiers (before matched after : List Char) :
    (sequence [repeated (one identifier) 1 none, one (.exactly '-'),
      repeated (one identifier) 1 none, one (.exactly '-')]).Matches before matched after ↔
      ∃ sandbox container, IsIdentifier sandbox ∧ IsIdentifier container ∧
        matched = sandbox ++ '-' :: container ++ ['-'] := by
  simp only [is_identifier_iff]
  constructor
  · rintro ⟨sandbox, rest, rfl, isSandbox, others⟩
    obtain ⟨rest, rfl, container, last, rfl, isContainer, others⟩ :=
      (matches_character _ _ _ _ _).mp others
    obtain ⟨rest, rfl, rfl⟩ := (matches_character _ _ _ _ _).mp others
    exact ⟨sandbox, container, (matches_some _ _ _ _).mp isSandbox,
      (matches_some _ _ _ _).mp isContainer, by simp⟩
  · rintro ⟨sandbox, container, isSandbox, isContainer, rfl⟩
    refine ⟨sandbox, '-' :: (container ++ ['-']), by simp, (matches_some _ _ _ _).mpr isSandbox, ?_⟩
    rw [matches_character]
    refine ⟨container ++ ['-'], rfl, container, ['-'], rfl, (matches_some _ _ _ _).mpr isContainer, ?_⟩
    rw [matches_character]
    exact ⟨[], rfl, rfl⟩

theorem matches_items (before left right : List Char) :
    (sequence items).Matches before left right ↔
      before = [] ∧ ∃ sandbox container, IsIdentifier sandbox ∧ IsIdentifier container ∧
        left = directory.toList ++ sandbox ++ '-' :: container ++ ['-'] := by
  rw [items, matches_sequence_append]
  simp only [matches_identifiers]
  constructor
  · rintro ⟨-, -, rfl, ⟨-, front, rfl, ⟨rfl, rfl⟩, filled⟩, sandbox, container, isSandbox,
      isContainer, rfl⟩
    have whole := (fills_plain_iff directory_plain).mp ((matches_dotted _ _ _ _).mp filled)
    exact ⟨rfl, sandbox, container, isSandbox, isContainer, by simp [whole]⟩
  · rintro ⟨rfl, sandbox, container, isSandbox, isContainer, rfl⟩
    refine ⟨directory.toList, sandbox ++ '-' :: container ++ ['-'], by simp,
      ⟨[], directory.toList, rfl, ⟨rfl, rfl⟩, ?_⟩, sandbox, container, isSandbox, isContainer, rfl⟩
    exact (matches_dotted _ _ _ _).mpr ((fills_plain_iff directory_plain).mpr rfl)

/-- A rule for a file admits the shared paths of what fills the file's name. -/
theorem admits_iff {file : String} (dotted : IsDotted file.toList)
    (uncounted : Uncounted file.toList) (path : String) :
    Admits (sharedContainerPath ++ file ++ "$") path ↔
      ∃ filled, Fills file.toList filled ∧ Holds filled path.toList := by
  have spelled : (sharedContainerPath ++ file ++ "$").toList =
      sharedContainerPath.toList ++ file.toList ++ ['$'] := by simp
  rw [Admits, spelled, read_dotted_end reading dotted uncounted, List.reverse_reverse]
  simp only [Option.some.injEq, exists_eq_left', accepts_dotted_end, matches_items]
  constructor
  · rintro ⟨-, -, filled, same, ⟨rfl, sandbox, container, isSandbox, isContainer, rfl⟩, fills⟩
    exact ⟨filled, fills, sandbox, container, isSandbox, isContainer, by simp [same]⟩
  · rintro ⟨filled, fills, sandbox, container, isSandbox, isContainer, same⟩
    exact ⟨[], _, filled, by simp [same], ⟨rfl, sandbox, container, isSandbox, isContainer, rfl⟩, fills⟩

/-- All paths that a rule for a file admits end in a hyphen and the file just when it has no dots. -/
theorem admits_suffix_iff {file : String} (dotted : IsDotted file.toList)
    (uncounted : Uncounted file.toList) :
    (∀ path, Admits (sharedContainerPath ++ file ++ "$") path → '-' :: file.toList <:+ path.toList) ↔
      '.' ∉ file.toList := by
  simp only [admits_iff dotted uncounted]
  constructor
  · intro ends dot
    obtain ⟨other, fills, different⟩ := fills_other dot
    let path := String.ofList (directory.toList ++ ['a'] ++ '-' :: ['a'] ++ '-' :: other)
    have isIdentifier : IsIdentifier ['a'] := by simp [IsIdentifier]
    have holds : Holds other path.toList :=
      ⟨['a'], ['a'], isIdentifier, isIdentifier, String.toList_ofList⟩
    obtain ⟨front, same⟩ := ends path ⟨other, fills, holds⟩
    rw [String.toList_ofList] at same
    have length : ('-' :: file.toList).length = ('-' :: other).length :=
      congrArg Nat.succ fills.length_eq
    have last := (List.append_inj' same length).2
    exact different (List.cons.inj last).2.symm
  · intro noDot path
    rintro ⟨filled, fills, sandbox, container, -, -, same⟩
    rw [fills_plain_iff (dotted.plain noDot)] at fills
    rw [same, fills]
    exact List.suffix_append _ _

end SharedPath

end LaunchPolicy
