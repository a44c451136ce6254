import Conveyor.Hash
import Mathlib.Algebra.BigOperators.Fin
import Mathlib.Data.Int.ModEq
import Mathlib.Tactic.Ring

/-!
# The hash in closed form

The hash is computed unit by unit in arithmetic that wraps.  What comes out is determined by a
polynomial over the whole numbers: the units are its coefficients, it is taken at 31, and of all
signed 32-bit values the hash is the one that is congruent to it modulo 2³².  Everything else is
read off that: what becomes of the hash of a text that goes on, and which bucket a key gets.

* `Utf16` — code units that stand for characters; `utf16_iff` says which these are.
* `polynomial` — the value of code units.
* **`toInt_hash_modEq`** — the hash is congruent to it.
* `bucketNumber_modEq` — the bucket of a key is congruent to its hash.
* **`closedForm`** — the hash and the bucket are determined by these congruences.
-/

namespace Conveyor.Hash

/-! ## Code units -/

/-- Code units that stand for characters: a character of the basic plane stands for itself, and one
beyond it is a high and a low surrogate that share its number, ten bits each. -/
inductive Utf16 : List Char → List Nat → Prop where
  | nil : Utf16 [] []
  | basic {c : Char} {cs : List Char} {units : List Nat} (plane : c.toNat < 0x10000)
      (rest : Utf16 cs units) : Utf16 (c :: cs) (c.toNat :: units)
  | pair {c : Char} {cs : List Char} {units : List Nat} {high low : Nat}
      (number : c.toNat = 0x10000 + (high - 0xD800) * 0x400 + (low - 0xDC00))
      (isHigh : 0xD800 ≤ high ∧ high < 0xDC00) (isLow : 0xDC00 ≤ low ∧ low < 0xE000)
      (rest : Utf16 cs units) : Utf16 (c :: cs) (high :: low :: units)

section

variable {c : Char} {cs : List Char} {units : List Nat}

theorem units16OfChar_of_basic (plane : c.toNat < 0x10000) : units16OfChar c = [c.toNat] :=
  if_pos plane

theorem units16OfChar_of_beyond (beyond : 0x10000 ≤ c.toNat) :
    units16OfChar c
      = [0xD800 + (c.toNat - 0x10000) / 0x400, 0xDC00 + (c.toNat - 0x10000) % 0x400] :=
  if_neg (Nat.not_lt.2 beyond)

/-- The highest number of a character is 10FFFF. -/
theorem char_toNat_lt (c : Char) : c.toNat < 0x110000 := by
  have valid : c.toNat < 0xD800 ∨ 0xDFFF < c.toNat ∧ c.toNat < 0x110000 := c.valid
  omega

theorem utf16_flatMap (cs : List Char) : Utf16 cs (cs.flatMap units16OfChar) := by
  induction cs with
  | nil => exact .nil
  | cons c rest ih =>
    rw [List.flatMap_cons]
    by_cases plane : c.toNat < 0x10000
    · rw [units16OfChar_of_basic plane]
      exact .basic plane ih
    · have beyond := Nat.not_lt.1 plane
      have bound := char_toNat_lt c
      rw [units16OfChar_of_beyond beyond]
      exact .pair (by omega) (by omega) (by omega) ih

theorem eq_of_utf16 (h : Utf16 cs units) : units = cs.flatMap units16OfChar := by
  induction h with
  | nil => rfl
  | basic plane rest ih =>
    rw [List.flatMap_cons, units16OfChar_of_basic plane, ih]
    rfl
  | pair number isHigh isLow rest ih =>
    rw [List.flatMap_cons, units16OfChar_of_beyond (by omega), ih, number]
    -- the quotient and the remainder of the number give the surrogates back
    simp only [List.cons_append, List.nil_append, List.cons.injEq, and_true]
    omega

/-- **The code units of a text** are those that stand for its characters. -/
theorem utf16_iff {s : String} : Utf16 s.toList units ↔ units = units16 s := by
  refine ⟨eq_of_utf16, ?_⟩
  rintro rfl
  exact utf16_flatMap s.toList

theorem units16_append (s t : String) : units16 (s ++ t) = units16 s ++ units16 t := by
  rw [units16, String.toList_append, List.flatMap_append]
  rfl

end

/-! ## The polynomial -/

/-- The polynomial in 31 whose coefficients are code units, with the first unit at the highest
power. -/
def polynomial (units : List Nat) : Int :=
  ∑ i : Fin units.length, (units[i] : Int) * 31 ^ (units.length - 1 - i)

@[simp] theorem polynomial_nil : polynomial [] = 0 := rfl

theorem polynomial_cons (unit : Nat) (units : List Nat) :
    polynomial (unit :: units) = unit * 31 ^ units.length + polynomial units := by
  have exponent : ∀ i : Fin units.length,
      (unit :: units).length - 1 - (i.succ : Fin (units.length + 1)) = units.length - 1 - i := by
    intro i
    rw [List.length_cons, Fin.val_succ]
    omega
  have sum := Fin.sum_univ_succ fun i : Fin (units.length + 1) =>
    ((unit :: units)[i] : Int) * 31 ^ ((unit :: units).length - 1 - i)
  rw [polynomial, polynomial]
  refine sum.trans ?_
  simp only [exponent]
  rfl

/-! ## The hash -/

/-- A number is congruent to what is left of it in 32 bits. -/
theorem bmod_modEq (n : Int) : n.bmod (2 ^ 32) ≡ n [ZMOD 2 ^ 32] := by
  have same : n.bmod (2 ^ 32) % ((2 ^ 32 : Nat) : Int) = n % ((2 ^ 32 : Nat) : Int) :=
    Int.bmod_emod
  exact same

theorem toInt_step_modEq (acc : Int32) (unit : Nat) :
    (step acc unit).toInt ≡ acc.toInt * 31 + unit [ZMOD 2 ^ 32] := by
  have product : (acc * 31).toInt ≡ acc.toInt * 31 [ZMOD 2 ^ 32] := by
    rw [Int32.toInt_mul]
    exact bmod_modEq _
  have coefficient : (Int32.ofNat unit).toInt ≡ unit [ZMOD 2 ^ 32] := by
    rw [Int32.toInt_ofNat']
    exact bmod_modEq _
  rw [step, Int32.toInt_add]
  exact (bmod_modEq _).trans (product.add coefficient)

/-- **Going on from a value**, the units raise it by as many powers of 31 as they are and add their
polynomial. -/
theorem toInt_foldl_modEq (units : List Nat) (acc : Int32) :
    (units.foldl step acc).toInt
      ≡ acc.toInt * 31 ^ units.length + polynomial units [ZMOD 2 ^ 32] := by
  induction units generalizing acc with
  | nil => simp
  | cons unit rest ih =>
    have here := (toInt_step_modEq acc unit).mul_right (31 ^ rest.length)
    have whole : (acc.toInt * 31 + unit) * 31 ^ rest.length + polynomial rest
        = acc.toInt * 31 ^ (unit :: rest).length + polynomial (unit :: rest) := by
      rw [polynomial_cons, List.length_cons]
      ring
    rw [List.foldl_cons, ← whole]
    exact (ih (step acc unit)).trans (here.add_right _)

/-- **The hash is congruent to the polynomial** of the text's code units. -/
theorem toInt_hash_modEq (s : String) : (hash s).toInt ≡ polynomial (units16 s) [ZMOD 2 ^ 32] := by
  have start := toInt_foldl_modEq (units16 s) 0
  rwa [Int32.toInt_zero, zero_mul, zero_add] at start

/-- The hash of a text that goes on. -/
theorem toInt_hash_append_modEq (s t : String) :
    (hash (s ++ t)).toInt
      ≡ (hash s).toInt * 31 ^ (units16 t).length + (hash t).toInt [ZMOD 2 ^ 32] := by
  have onward := toInt_foldl_modEq (units16 t) (hash s)
  rw [hash, units16_append, List.foldl_append]
  exact onward.trans ((toInt_hash_modEq t).symm.add_left _)

/-- Congruent values of 32 bits are the same. -/
theorem eq_of_modEq {v w : Int} (h : v ≡ w [ZMOD 2 ^ 32]) (hv : -2 ^ 31 ≤ v ∧ v < 2 ^ 31)
    (hw : -2 ^ 31 ≤ w ∧ w < 2 ^ 31) : v = w := by
  have same : v % 2 ^ 32 = w % 2 ^ 32 := h
  omega

/-! ## Buckets -/

section

variable {key : String} {count b : Nat}

theorem bucketNumber_modEq (key : String) (positive : 0 < count) :
    (bucketNumber key count : Int) ≡ (hash key).toInt [ZMOD count] := by
  have remainder : 0 ≤ (hash key).toInt % count := Int.emod_nonneg _ (by omega)
  rw [bucketNumber, Int.toNat_of_nonneg remainder]
  exact Int.mod_modEq _ _

/-- The bucket of a key is the only number below the number of buckets that is congruent to its
hash. -/
theorem bucketNumber_eq_iff (positive : 0 < count) :
    bucketNumber key count = b ↔ b < count ∧ (b : Int) ≡ (hash key).toInt [ZMOD count] := by
  have same := bucketNumber_modEq key positive
  have inside := bucketNumber_lt key positive
  constructor
  · rintro rfl
    exact ⟨inside, same⟩
  · rintro ⟨lt, other⟩
    have congruent : (bucketNumber key count : Int) % count = (b : Int) % count :=
      same.trans other.symm
    rw [Int.emod_eq_of_lt (by omega) (by omega), Int.emod_eq_of_lt (by omega) (by omega)]
      at congruent
    exact Int.ofNat_inj.1 congruent

theorem bucketNumber?_of_pos (key : String) (positive : 0 < count) :
    bucketNumber? key count = .ok (bucketNumber key count) :=
  if_neg (Nat.ne_of_gt positive)

theorem bucketNumber?_zero (key : String) : bucketNumber? key 0 = .error .noBuckets := rfl

end

/-! ## What is fixed -/

/-- What the hash of a text and the buckets of a key are, told without the way in which they are
computed. -/
structure ClosedForm (s : String) : Prop where
  /-- The units are those of the text in UTF-16. -/
  units : ∀ us, us = units16 s ↔ Utf16 s.toList us
  /-- Of the signed 32-bit values the hash is the one that is congruent to the polynomial. -/
  value : ∀ v : Int, v = (hash s).toInt ↔
    -2 ^ 31 ≤ v ∧ v < 2 ^ 31 ∧ v ≡ polynomial (units16 s) [ZMOD 2 ^ 32]
  /-- A text that goes on shifts what there was. -/
  append : ∀ t, (hash (s ++ t)).toInt
    ≡ (hash s).toInt * 31 ^ (units16 t).length + (hash t).toInt [ZMOD 2 ^ 32]
  /-- There is a bucket just if there are any to choose from. -/
  chosen : ∀ count, (∃ b, bucketNumber? s count = .ok b) ↔ 1 ≤ count
  /-- Of the buckets it is the one that is congruent to the hash, which may be negative. -/
  bucket : ∀ count b, bucketNumber? s count = .ok b ↔
    b < count ∧ (b : Int) ≡ (hash s).toInt [ZMOD count]

/-- **The hash in closed form**: texts hash to the value of their polynomial in 32 bits, and keys go
to the bucket of that value, whatever its sign. -/
theorem closedForm (s : String) : ClosedForm s where
  units _ := utf16_iff.symm
  value v := by
    have bounds : -2 ^ 31 ≤ (hash s).toInt ∧ (hash s).toInt < 2 ^ 31 :=
      ⟨Int32.le_toInt _, Int32.toInt_lt _⟩
    have value := toInt_hash_modEq s
    constructor
    · rintro rfl
      exact ⟨bounds.1, bounds.2, value⟩
    · rintro ⟨lower, upper, congruent⟩
      exact eq_of_modEq (congruent.trans value.symm) ⟨lower, upper⟩ bounds
  append := toInt_hash_append_modEq s
  chosen count := by
    rcases Nat.eq_zero_or_pos count with rfl | positive
    · simp [bucketNumber?_zero]
    · exact ⟨fun _ => positive, fun _ => ⟨_, bucketNumber?_of_pos s positive⟩⟩
  bucket count b := by
    rcases Nat.eq_zero_or_pos count with rfl | positive
    · simp [bucketNumber?_zero]
    · rw [bucketNumber?_of_pos s positive, Except.ok.injEq]
      exact bucketNumber_eq_iff positive

/-- A key whose hash is the least value of 32 bits, and its bucket among more than 2³¹. -/
example : (hash "polygenelubricants").toInt = -2 ^ 31 ∧
    bucketNumber? "polygenelubricants" 4294967295 = .ok 2147483647 := by
  decide +kernel

end Conveyor.Hash
