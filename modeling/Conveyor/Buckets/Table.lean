import Conveyor.Buckets.Memory
import Conveyor.Table

/-!
# Buckets in a table

Counts are kept as signed numbers of 64 bits: what is added counts as such a number, and a count
below zero reads as none.

* `BucketRow` — a row.
* `TableBuckets` — a bucket store.
-/

namespace Conveyor

/-- A bucket as a row. -/
structure BucketRow where
  objectId : String
  bucketId : String
  rows : Int
deriving DecidableEq

namespace BucketRow

def bucket (row : BucketRow) : Bucket := ⟨row.objectId, row.bucketId, row.rows.toNat⟩

/-- A number of rows as a signed number of 64 bits. -/
def signed (rows : Nat) : Int := (rows : Int).bmod 18446744073709551616

end BucketRow

abbrev TableBuckets := Table BucketRow

namespace TableBuckets

def bucketsOf (object : String) : Action TableBuckets StoreError (List Bucket) := do
  let rows ← Table.select fun row : BucketRow => row.objectId = object
  pure (rows.map BucketRow.bucket)

def current (object : String) : Action TableBuckets StoreError (Option Bucket) := do
  let buckets ← bucketsOf object
  pure buckets.getLast?

/-- A new bucket of an object under the next name, which is drawn once the row is there. -/
def allocate (object : String) : Action (TableBuckets × IdSource) StoreError Bucket := do
  let name ← .gets fun s => s.2.next
  Action.on .fst (Table.append (⟨object, name, 0⟩ : BucketRow))
  Action.on .snd (.modify IdSource.draw)
  pure ⟨object, name, 0⟩

def increment (object bucket : String) (rows : Nat) : Action TableBuckets StoreError Unit := do
  let changed ← Table.revise
    (fun row : BucketRow => row.objectId = object && row.bucketId = bucket)
    fun row => { row with rows := row.rows + BucketRow.signed rows }
  if changed = 0 then .fail (unknownBucket object bucket) else pure ()

instance : BucketStore TableBuckets where
  current := current
  allocate := allocate
  increment := increment
  bucketsOf := bucketsOf

end TableBuckets

end Conveyor
