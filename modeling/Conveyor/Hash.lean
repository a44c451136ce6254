import Conveyor.Misuse

/-!
# A stable hash of text

Records of one key have to meet on one partition, today and after a restart, on every machine.  So
the hash is fixed: the polynomial in 31 over the text's UTF-16 code units, in 32-bit two's
complement arithmetic.

* `Hash.units16` — the UTF-16 code units of a text.
* `Hash.hash` — the hash.
* `Hash.bucketNumber` — the bucket of a key among a number of buckets: the hash modulo that number,
  never negative.
-/

namespace Conveyor.Hash

/-- The UTF-16 code units of a character: one, or a surrogate pair beyond the basic plane. -/
def units16OfChar (c : Char) : List Nat :=
  let n := c.toNat
  if n < 0x10000 then [n]
  else [0xD800 + (n - 0x10000) / 0x400, 0xDC00 + (n - 0x10000) % 0x400]

def units16 (s : String) : List Nat := s.toList.flatMap units16OfChar

/-- One more unit: everything so far moves up by a factor of 31. -/
def step (acc : Int32) (unit : Nat) : Int32 := acc * 31 + Int32.ofNat unit

def hash (s : String) : Int32 := (units16 s).foldl step 0

def bucketNumber (key : String) (count : Nat) : Nat := ((hash key).toInt % count).toNat

/-- The bucket of a key, refusing to choose among none. -/
def bucketNumber? (key : String) (count : Nat) : Except Misuse Nat :=
  if count = 0 then .error .noBuckets else .ok (bucketNumber key count)

theorem bucketNumber_lt {count : Nat} (key : String) (h : 0 < count) :
    bucketNumber key count < count := by
  have pos : (0 : Int) < count := by omega
  have lower := Int.emod_nonneg (hash key).toInt (Int.ne_of_gt pos)
  have upper := Int.emod_lt_of_pos (hash key).toInt pos
  unfold bucketNumber
  omega

end Conveyor.Hash
