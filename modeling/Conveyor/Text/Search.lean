/-!
# Searching

* `occursIn` — whether a sequence stands somewhere in another, for texts and bytes alike.
-/

namespace Conveyor.Text

variable {α : Type} [BEq α]

/-- Whether a sequence stands somewhere in another. -/
def occursIn (wanted : List α) : List α → Bool
  | [] => wanted.isEmpty
  | a :: rest => wanted.isPrefixOf (a :: rest) || occursIn wanted rest

end Conveyor.Text
