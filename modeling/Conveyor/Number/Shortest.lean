import Conveyor.Number.Binary64
import Conveyor.Text.Decimal

/-!
# The shortest decimal text of a floating-point number

Every number of the double format stands for an interval of reals, those that round to it.  Its
shortest decimal is a decimal in that interval with as few digits as possible, and of those the
nearest to the number.

* `Binary64.shortest` — the digits and the power of ten of that decimal.
* `Binary64.text` — its text: positional from `0.00001` up to sixteen digits before the point, with
  an exponent outside.
-/

namespace Conveyor.Binary64

/-- The number and the two ends of its interval, in quarters of its last binary place.  The gap
below a power of two is half as wide, unless there are no smaller gaps. -/
def quarters (x : Binary64) : Nat × Nat × Nat :=
  let m := 4 * x.significand
  let below := if x.significand = leastFull ∧ minExponent < x.exponent then 1 else 2
  (m - below, m, m + 2)

/-- The exponent of the leading decimal digit of the positive quotient `a / b`. -/
def leadingPlace (a b : Nat) : Int :=
  if b ≤ a then (Text.digitsOf (a / b)).length - 1
  else -((Text.digitsOf ((b + a - 1) / a - 1)).length : Int)

/-- A decimal of `count` digits in the interval of `x`, the nearest if there are two. -/
def ofDigitCount? (x : Binary64) (count : Nat) : Option (Nat × Int) :=
  let (low, mid, high) := x.quarters
  let (num, den) := unscale mid 1 (2 - x.exponent)
  let place := leadingPlace num den
  let step : Int := place - count + 1
  -- quarters and decimals on one integer scale
  let quarter := Text.powerOfTen (-step).toNat <<< (x.exponent - 2).toNat
  let decimal := Text.powerOfTen step.toNat <<< (2 - x.exponent).toNat
  let value := mid * quarter
  let inside (d : Nat) : Bool :=
    if x.significand % 2 = 0 then low * quarter ≤ d * decimal ∧ d * decimal ≤ high * quarter
    else low * quarter < d * decimal ∧ d * decimal < high * quarter
  let d := value / decimal
  let down := value - d * decimal
  let up := (d + 1) * decimal - value
  match inside d, inside (d + 1) with
  | true, true => some (if down < up ∨ (down = up ∧ d % 2 = 0) then d else d + 1, step)
  | true, false => some (d, step)
  | false, true => some (d + 1, step)
  | false, false => none

/-- A decimal without the zeros at its end. -/
def trimZeros (fuel d : Nat) (e : Int) : Nat × Int :=
  match fuel with
  | 0 => (d, e)
  | fuel + 1 => if d ≠ 0 ∧ d % 10 = 0 then trimZeros fuel (d / 10) (e + 1) else (d, e)

/-- The shortest decimal `d · 10 ^ e` of a number; seventeen digits always suffice. -/
def shortest (x : Binary64) : Nat × Int :=
  if x.significand = 0 then (0, 0)
  else
    match (List.range 17).findSome? fun i => x.ofDigitCount? (i + 1) with
    | some (d, e) => trimZeros 18 d e
    | none => (0, 0)

/-- The text of a decimal with a point. -/
def decimalText (d : Nat) (e : Int) : List Char :=
  let ds := Text.digitsOf d
  let place : Int := ds.length + e - 1
  if -5 ≤ place ∧ place ≤ 15 then
    if 0 ≤ e then ds ++ List.replicate e.toNat '0' ++ ['.', '0']
    else if 0 ≤ place then
      ds.take (place + 1).toNat ++ '.' :: ds.drop (place + 1).toNat
    else '0' :: '.' :: List.replicate (-place - 1).toNat '0' ++ ds
  else
    let fraction := match ds with
      | first :: second :: rest => first :: '.' :: second :: rest
      | ds => ds
    fraction ++ 'e' :: (if place < 0 then '-' else '+') :: Text.digitsOf place.natAbs

def text (negative : Bool) (x : Binary64) : String :=
  let (d, e) := x.shortest
  String.ofList ((if negative then ['-'] else []) ++ decimalText d e)

end Conveyor.Binary64
