import LaunchPolicy.CommandLine.Request

/-!
What a command line can ask for. A file of manifests and an image exclude each other, in whichever
order and however often their flags come.
-/

namespace LaunchPolicy.CommandLine

variable {α β : Type}

/-- A reading whose result is one of some, and that does not end early with a compilation. -/
def Reading.Gives (holds : α → Prop) : Reading α → Prop
  | .ok a => holds a
  | .error (.answered (.compile _)) => False
  | .error _ => True

theorem Reading.Gives.bind {holds : α → Prop} {holdsNext : β → Prop} {reading : Reading α}
    {next : α → Reading β} (gives : reading.Gives holds)
    (gives_next : ∀ a, holds a → (next a).Gives holdsNext) : (reading >>= next).Gives holdsNext := by
  rcases reading with (stop | request) | a
  · trivial
  · cases request <;> trivial
  · exact gives_next a gives

namespace Invocation

/-- Not both a file and an image are asked for. -/
def Exclusive (i : Invocation) : Prop := i.input = none ∨ i.image = none

theorem apply_gives {i : Invocation} (exclusive : i.Exclusive) (flag : Flag) (value : String) :
    (i.apply flag value).Gives Exclusive := by
  cases flag with
  | input =>
      rw [apply]
      split
      · trivial
      · rename_i absent
        exact .inr (by simpa using absent)
  | image =>
      rw [apply]
      split
      · trivial
      · rename_i absent
        exact .inl (by simpa using absent)
  | logFormat =>
      rw [apply]
      split
      · exact exclusive
      · trivial
  | help | version => trivial
  | output | policy | withRuntime | config | verbose => exact exclusive

theorem apply_all_gives {i : Invocation} (exclusive : i.Exclusive) (flags : List (Flag × String)) :
    (flags.foldlM (fun i entry => i.apply entry.1 entry.2) i : Reading Invocation).Gives Exclusive := by
  induction flags generalizing i with
  | nil => exact exclusive
  | cons entry flags ih =>
      rw [List.foldlM_cons]
      exact (apply_gives exclusive entry.1 entry.2).bind fun _ kept => ih kept

end Invocation

theorem take_next_gives (flag : Flag) (rest : List Word) : (takeNext flag rest).Gives fun _ => True := by
  unfold takeNext
  split
  · split <;> trivial
  · trivial

theorem take_flags_gives (fuel : Nat) (flag : Flag) (spelling : String) (attached : Option Attached)
    (rest : List Word) : (takeFlags fuel flag spelling attached rest).Gives fun _ => True := by
  induction fuel generalizing flag spelling attached with
  | zero =>
      cases attached with
      | none => exact take_next_gives flag rest
      | some attached => trivial
  | succ fuel ih =>
      cases attached with
      | none => exact take_next_gives flag rest
      | some attached =>
          rw [takeFlags]
          split
          · trivial
          · split
            · trivial
            · split
              · trivial
              · dsimp only
                split
                · trivial
                · exact (ih _ _ _).bind fun _ _ => trivial

theorem read_words_gives {i : Invocation} (exclusive : i.Exclusive) (fuel : Nat) (aside : List String)
    (words : List Word) : (readWords fuel i aside words).Gives fun result => result.1.Exclusive := by
  induction fuel generalizing i aside words with
  | zero => exact exclusive
  | succ fuel ih =>
      cases words with
      | nil => exact exclusive
      | cons word rest =>
          cases word with
          | flag flag spelling attached =>
              rw [readWords]
              exact (take_flags_gives _ flag spelling attached rest).bind fun taken _ =>
                (Invocation.apply_all_gives exclusive taken.flags).bind fun _ kept => ih kept _ _
          | plain | separator | unknown => exact ih exclusive _ _

theorem read_gives (arguments : List String) :
    (read arguments).Gives fun request => ∀ i, request = .compile i → i.Exclusive := by
  have words : Reading.Gives (fun _ => True)
      ((Word.ofArguments arguments).mapError Stop.misused) := by
    cases Word.ofArguments arguments <;> trivial
  refine words.bind fun words _ => (read_words_gives (.inl rfl) _ [] words).bind fun result exclusive => ?_
  dsimp only
  split
  · trivial
  split
  · trivial
  · intro i same
    exact Request.compile.inj same ▸ exclusive

theorem Request.exclusive {arguments : List String} {i : Invocation}
    (asked : ofArguments arguments = .ok (.compile i)) : i.Exclusive := by
  have gives := read_gives arguments
  rw [ofArguments] at asked
  split at asked
  · rename_i request found
    rw [found] at gives
    exact gives i (Except.ok.inj asked)
  · rename_i request found
    obtain rfl := Except.ok.inj asked
    rw [found] at gives
    exact gives.elim
  · cases asked

end LaunchPolicy.CommandLine
