/-!
# The length of text in bytes

Readers that look ahead a fixed distance count that distance in bytes of UTF-8, not in characters.

* `Text.byteLength` — the number of bytes of a text.
-/

namespace Conveyor.Text

/-- The number of bytes of a text in UTF-8. -/
def byteLength (cs : List Char) : Nat := cs.foldr (fun c count => c.utf8Size + count) 0

@[simp]
theorem byteLength_nil : byteLength [] = 0 := rfl

@[simp]
theorem byteLength_cons (c : Char) (cs : List Char) :
    byteLength (c :: cs) = c.utf8Size + byteLength cs := rfl

theorem length_le_byteLength (cs : List Char) : cs.length ≤ byteLength cs := by
  induction cs with
  | nil => exact Nat.le_refl 0
  | cons c cs ih =>
    rw [byteLength_cons, List.length_cons]
    have : 0 < c.utf8Size := c.utf8Size_pos
    omega

end Conveyor.Text
