import LaunchPolicy.Fault

/-!
Values that are not written. A form of writing may have no place for some scalars or sets, and it
follows collections within each other down to a depth; the first part that is refused counts, in the
order of the text.
-/

namespace LaunchPolicy

/-- What a form of writing refuses. -/
structure Refusal where
  scalar : Scalar → Option Fault
  set : List Scalar → Option Fault

namespace Refusal

variable (refusal : Refusal)

mutual

/-- Why a value is refused, if it is, with room for a number of levels. -/
def fault? : Nat → Value → Option Fault
  | _, .scalar s => refusal.scalar s
  | 0, .list _ | 0, .pair _ _ | 0, .set _ | 0, .map _ => some .tooDeep
  | room + 1, .list items => itemsFault? room items
  | room + 1, .pair a b => fault? room a <|> fault? room b
  | _ + 1, .set members => refusal.set members
  | room + 1, .map fields => fieldsFault? room fields

def itemsFault? : Nat → List Value → Option Fault
  | _, [] => none
  | room, item :: items => fault? room item <|> itemsFault? room items

def fieldsFault? : Nat → List (Scalar × Value) → Option Fault
  | _, [] => none
  | room, (key, value) :: fields => refusal.scalar key <|> fault? room value <|> fieldsFault? room fields

end

end Refusal

/-- Messages show everything but integers whose numerals are too long. -/
def Scalar.textFault? (s : Scalar) : Option Fault := if s.hasText then none else some .badValue

def messageRefusal : Refusal := ⟨Scalar.textFault?, fun members => members.findSome? Scalar.textFault?⟩

/-- Why a value has no text in messages, if it has none. -/
def Value.textFault? (room : Nat) (v : Value) : Option Fault := messageRefusal.fault? room v

end LaunchPolicy
