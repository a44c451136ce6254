import Conveyor.Action
import Conveyor.StoreError

/-!
# Buckets

The rows of an object are counted in buckets of bounded size, so that no single counter takes all
the writes.

* `Bucket` — one of an object's counters.
* `IdSource` — where the names of new buckets and versions come from.
* `BucketStore` — stores of buckets.
-/

namespace Conveyor

/-- One of the counters of an object. -/
structure Bucket where
  objectId : String
  bucketId : String
  rows : Nat
deriving DecidableEq, Repr

/-- A supply of names: a sequence, and how many of it have been drawn. -/
structure IdSource where
  name : Nat → String
  drawn : Nat

namespace IdSource

def next (ids : IdSource) : String := ids.name ids.drawn

def draw (ids : IdSource) : IdSource := { ids with drawn := ids.drawn + 1 }

end IdSource

/-- Stores of buckets. -/
class BucketStore (B : Type) where
  /-- The youngest bucket of an object. -/
  current : String → Action B StoreError (Option Bucket)
  /-- A new, empty bucket of an object, under a fresh name. -/
  allocate : String → Action (B × IdSource) StoreError Bucket
  /-- Adds rows to a bucket of an object. -/
  increment : String → String → Nat → Action B StoreError Unit
  bucketsOf : String → Action B StoreError (List Bucket)

end Conveyor
