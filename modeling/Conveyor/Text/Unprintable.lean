import Conveyor.Text.Combining
import Conveyor.Text.Unassigned

/-!
# Characters that do not show

The characters that leave no mark of their own in a line of text: the control and format
characters, the blanks other than the space, the private-use and unassigned areas, the letters that
are mere fillers, and the marks that combine with the character before them.  Quoted text writes
them as escapes.

* `Text.isUnprintable` — the property.
-/

namespace Conveyor.Text

/-- Controls, format characters, blanks other than the space, separators, and private use: the
general categories `Cc`, `Cf`, `Zs`, `Zl`, `Zp` and `Co`. -/
def CharSet.formatting : CharSet := ⟨
  [(0x0, 0x1F), (0x7F, 0xA0), (0xAD, 0xAD), (0x600, 0x605), (0x61C, 0x61C), (0x6DD, 0x6DD),
   (0x70F, 0x70F), (0x890, 0x891), (0x8E2, 0x8E2), (0x1680, 0x1680), (0x180E, 0x180E),
   (0x2000, 0x200F), (0x2028, 0x202F), (0x205F, 0x2064), (0x2066, 0x206F), (0x3000, 0x3000),
   (0xE000, 0xF8FF), (0xFEFF, 0xFEFF), (0xFFF9, 0xFFFB), (0x110BD, 0x110BD), (0x110CD, 0x110CD),
   (0x13430, 0x1343F), (0x1BCA0, 0x1BCA3), (0x1D173, 0x1D17A), (0xE0001, 0xE0001),
   (0xE0020, 0xE007F), (0xF0000, 0xFFFFD), (0x100000, 0x10FFFD)]⟩

/-- The letters that stand for no sound and are not drawn: the Hangul fillers.  They are the letters
among the characters of the property `Default_Ignorable_Code_Point`. -/
def CharSet.fillers : CharSet := ⟨[(0x115F, 0x1160), (0x3164, 0x3164), (0xFFA0, 0xFFA0)]⟩

/-- Whether a character leaves no mark of its own. -/
def isUnprintable (c : Char) : Bool :=
  CharSet.formatting.contains c || CharSet.fillers.contains c || CharSet.combining.contains c ||
    CharSet.unassigned.contains c

end Conveyor.Text
