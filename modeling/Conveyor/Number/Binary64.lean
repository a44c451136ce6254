import Conveyor.Text.Decimal

/-!
# Floating point of 64 bits

The non-negative numbers of the double format as exact dyadic numbers, with the one operation that
the format is about: rounding a quotient to the nearest of them, a tie to the even one.  Products
and quotients of two such numbers are that rounding of the exact result.

* `Binary64` — `significand · 2 ^ exponent`.
* `Binary64.nearest?` — the nearest number to a quotient; none if that is beyond the greatest.
* `Binary64.mul?`, `Binary64.div?`, `Binary64.powerOfTen?`.
-/

namespace Conveyor

/-- The number `significand · 2 ^ exponent`; a significand has at most 53 bits. -/
structure Binary64 where
  significand : Nat
  exponent : Int
deriving DecidableEq, Repr

namespace Binary64

/-- The exponent of the least positive number. -/
def minExponent : Int := -1074

/-- The exponent of the greatest number. -/
def maxExponent : Int := 971

/-- The least significand of full width, which is 53 bits. -/
def leastFull : Nat := 1 <<< 52

/-- The quotient `a / b` divided by `2 ^ e`, as a fraction again. -/
def unscale (a b : Nat) (e : Int) : Nat × Nat :=
  if 0 ≤ e then (a, b <<< e.toNat) else (a <<< (-e).toNat, b)

/-- The quotient rounded to a whole number, a half to the even neighbour. -/
def roundHalfEven (a b : Nat) : Nat :=
  let q := a / b
  let twice := 2 * (a % b)
  if twice < b then q else if b < twice then q + 1 else q + q % 2

/-- The number nearest to `a / b`, for positive `b`. -/
def nearest? (a b : Nat) : Option Binary64 :=
  if a = 0 then some ⟨0, minExponent⟩
  else
    let guess : Int := max ((a.log2 : Int) - b.log2 - 53) minExponent
    let (a₁, b₁) := unscale a b guess
    let e := if 2 * leastFull ≤ a₁ / b₁ then guess + 1 else guess
    let (a₂, b₂) := unscale a b e
    let m := roundHalfEven a₂ b₂
    let result : Binary64 := if m = 2 * leastFull then ⟨leastFull, e + 1⟩ else ⟨m, e⟩
    if maxExponent < result.exponent then none else some result

def toFraction (x : Binary64) : Nat × Nat :=
  if 0 ≤ x.exponent then (x.significand <<< x.exponent.toNat, 1)
  else (x.significand, 1 <<< (-x.exponent).toNat)

def mul? (x y : Binary64) : Option Binary64 :=
  let (a, b) := x.toFraction
  let (c, d) := y.toFraction
  nearest? (a * c) (b * d)

/-- The rounded quotient; the divisor is not zero. -/
def div? (x y : Binary64) : Option Binary64 :=
  let (a, b) := x.toFraction
  let (c, d) := y.toFraction
  nearest? (a * d) (b * c)

def powerOfTen? (k : Nat) : Option Binary64 := nearest? (Text.powerOfTen k) 1

/-- `n · 10 ^ e`, in the steps of one rounding each that a reader of decimal text takes: `n` is
rounded, then multiplied or divided by a rounded power of ten; powers beyond the greatest are
taken in parts of 308.  None if the result is too great. -/
def scaled? (n : Nat) (e : Int) : Option Binary64 := do
  go (← nearest? n 1) e
where
  go (x : Binary64) (e : Int) : Option Binary64 :=
    if e.natAbs ≤ 308 then do
      let p ← powerOfTen? e.natAbs
      if 0 ≤ e then x.mul? p else x.div? p
    else if x.significand = 0 then some x
    else if 0 < e then none
    else do
      let y ← x.div? (← powerOfTen? 308)
      go y (e + 308)
  termination_by e.natAbs

end Binary64

end Conveyor
