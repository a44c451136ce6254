/-!
# Whole numbers in decimal

Reading and writing whole numbers as decimal text.  Writing gives the shortest text.  Reading is
stricter than a calculator and laxer than a canonical form: leading zeros and an explicit plus are
fine, anything but digits is not, and the value has to fit the range it is read into.

* `Text.digitsOf` — the digits of a natural number.
* `Text.natOfDigits?` — the number of a non-empty run of digits.
* `Text.readSigned?`, `Text.readUnsigned?` — numbers of 64 bits, signed and unsigned.
-/

namespace Conveyor.Text

def digitsOf (n : Nat) : List Char := Nat.toDigits 10 n

/-- The digits of `n` on at least `width` places, filled up with zeros. -/
def padded (width n : Nat) : List Char :=
  List.replicate (width - (digitsOf n).length) '0' ++ digitsOf n

/-- What a digit counts for with `places` digits behind it. -/
def powerOfTen (places : Nat) : Nat := Nat.pow 10 places

/-- The value of a run of digits read as one decimal number. -/
def valueOfDigits (ds : List Char) : Nat := Nat.ofDigitChars 10 ds 0

/-- The number that a text of digits alone, at least one, stands for. -/
def natOfDigits? (ds : List Char) : Option Nat :=
  if ds ≠ [] ∧ ds.all Char.isDigit then some (valueOfDigits ds) else none

theorem isDigit_of_mem_digitsOf {n : Nat} {c : Char} (h : c ∈ digitsOf n) : c.isDigit = true :=
  Nat.isDigit_of_mem_toDigits (by decide) (by decide) h

theorem exists_digitsOf_eq_cons (n : Nat) :
    ∃ d ds, digitsOf n = d :: ds ∧ d.isDigit = true := by
  cases digits : digitsOf n with
  | nil => exact absurd digits Nat.toDigits_ne_nil
  | cons d ds => exact ⟨d, ds, rfl, isDigit_of_mem_digitsOf (n := n) (by simp [digits])⟩

theorem natOfDigits?_digitsOf (n : Nat) : natOfDigits? (digitsOf n) = some n := by
  have all : (digitsOf n).all Char.isDigit := by
    rw [List.all_eq_true]
    exact fun c hc => isDigit_of_mem_digitsOf hc
  have some_digit : digitsOf n ≠ [] := Nat.toDigits_ne_nil
  rw [natOfDigits?, if_pos ⟨some_digit, all⟩]
  exact congrArg some Nat.ofDigitChars_ten_toDigits

/-- The least and the greatest signed number of 64 bits. -/
def minSigned : Int := -9223372036854775808
def maxSigned : Int := 9223372036854775807

/-- The greatest unsigned number of 64 bits. -/
def maxUnsigned : Nat := 18446744073709551615

/-- A signed number of 64 bits: digits after an optional sign. -/
def readSigned? (cs : List Char) : Option Int :=
  let value? : Option Int := match cs with
    | '-' :: ds => (natOfDigits? ds).map fun n => -(n : Int)
    | '+' :: ds => (natOfDigits? ds).map Int.ofNat
    | ds => (natOfDigits? ds).map Int.ofNat
  value?.filter fun n => minSigned ≤ n && n ≤ maxSigned

def readUnsigned? (cs : List Char) : Option Nat :=
  let value? := match cs with
    | '+' :: ds => natOfDigits? ds
    | ds => natOfDigits? ds
  value?.filter (· ≤ maxUnsigned)

end Conveyor.Text
