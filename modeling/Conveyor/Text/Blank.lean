/-!
# Blank characters

Which characters count as white space when a text is trimmed: the characters with the property
`White_Space` of the Unicode standard, which is more than ASCII's six.

* `Text.isBlank` — the property.
* `Text.trimStart`, `Text.trim` — a text without the blanks at its start, or at both ends.
-/

namespace Conveyor.Text

/-- Characters with the property `White_Space`: the tab to the carriage return, the space, the
next-line control, the no-break spaces, the spaces of typography and the two separators. -/
def isBlank (c : Char) : Bool :=
  let n := c.toNat
  (9 ≤ n && n ≤ 13) || n == 0x20 || n == 0x85 || n == 0xA0 || n == 0x1680 ||
    (0x2000 ≤ n && n ≤ 0x200A) || n == 0x2028 || n == 0x2029 || n == 0x202F || n == 0x205F ||
    n == 0x3000

def trimStart (cs : List Char) : List Char := cs.dropWhile isBlank

def trim (s : String) : List Char := (trimStart (trimStart s.toList).reverse).reverse

end Conveyor.Text
