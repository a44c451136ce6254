/-!
# Sets of characters

A set of characters is written as ranges of code points, as the tables of the Unicode standard
write a property.

* `CharSet.contains` — membership; `CharSet.union` — the ranges of two sets.
-/

namespace Conveyor.Text

/-- A set of characters: ranges of code points, both ends included. -/
structure CharSet where
  ranges : List (Nat × Nat)

namespace CharSet

def contains (s : CharSet) (c : Char) : Bool :=
  s.ranges.any fun (first, last) => first ≤ c.toNat && c.toNat ≤ last

def union (s t : CharSet) : CharSet := ⟨s.ranges ++ t.ranges⟩

end CharSet

end Conveyor.Text
