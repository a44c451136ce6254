/-!
# Hexadecimal text

* `hex` — bytes as pairs of hexadecimal digits.
-/

namespace Conveyor.Text

/-- The two lower-case hexadecimal digits of a byte. -/
def hexDigits (b : UInt8) : List Char :=
  [Nat.digitChar (b.toNat / 16), Nat.digitChar (b.toNat % 16)]

def hex (bytes : List UInt8) : String := String.ofList (bytes.flatMap hexDigits)

end Conveyor.Text
