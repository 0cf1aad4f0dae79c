/-!
Where one text occurs in another.
-/

namespace LaunchPolicy.Text

def occurs {α : Type} [DecidableEq α] (part : List α) : List α → Bool
  | [] => part.isEmpty
  | c :: cs => part.isPrefixOf (c :: cs) || occurs part cs

end LaunchPolicy.Text
