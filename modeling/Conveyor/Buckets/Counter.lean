import Conveyor.Buckets.Basic
import Conveyor.Misuse

/-!
# Bucketed counters

The rows of an object go to its youngest bucket until that is full; then a new one is begun.  The
choice of the bucket and the counting are separate calls of the store, so writers at the same time
may overfill a bucket, but no row goes uncounted.

* `BucketedCounter` — the capacity of its buckets.
* `BucketedCounter.addRow` — counting a row.
* `totalRows` — the rows of an object.
* `datasetObject` — the object under which the records of a dataset are counted.
-/

namespace Conveyor

/-- A counter whose buckets take a number of rows each. -/
structure BucketedCounter where
  capacity : Nat
  capacity_pos : 0 < capacity
deriving DecidableEq

/-- The object under which the records of a dataset are counted. -/
def datasetObject (provider dataset : String) : String := provider ++ dataset

namespace BucketedCounter

/-- A counter with buckets of a capacity, which must not be none. -/
def ofCapacity (capacity : Nat) : Except Misuse BucketedCounter :=
  if h : 0 < capacity then .ok ⟨capacity, h⟩ else .error .noCapacity

variable {B : Type} [BucketStore B]

/-- The bucket for the next row of an object: the youngest unless it is full, else a new one. -/
def choose (c : BucketedCounter) (object : String) : Action (B × IdSource) StoreError Bucket := do
  match ← Action.on .fst (BucketStore.current object) with
  | some bucket => if bucket.rows < c.capacity then pure bucket else BucketStore.allocate object
  | none => BucketStore.allocate object

/-- **Counts a row of an object** and answers the bucket it went to. -/
def addRow (c : BucketedCounter) (object : String) : Action (B × IdSource) StoreError Bucket := do
  let bucket ← c.choose object
  Action.on .fst (BucketStore.increment object bucket.bucketId 1)
  pure { bucket with rows := bucket.rows + 1 }

end BucketedCounter

def totalRows {B : Type} [BucketStore B] (object : String) : Action B StoreError Nat := do
  let buckets ← BucketStore.bucketsOf object
  pure (buckets.foldr (fun b count => b.rows + count) 0)

end Conveyor
