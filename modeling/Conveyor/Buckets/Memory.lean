import Conveyor.Buckets.Basic

/-!
# Buckets in memory

* `MemoryBuckets` — a bucket store.
* `unknownBucket` — the failure of counting rows in a bucket that does not exist.
-/

namespace Conveyor

/-- The failure of counting rows in a bucket that does not exist. -/
def unknownBucket (object bucket : String) : StoreError :=
  .storage ("unknown bucket " ++ bucket ++ " of " ++ object)

/-- The buckets of all objects, the oldest first. -/
structure MemoryBuckets where
  buckets : List Bucket
deriving DecidableEq

namespace MemoryBuckets

def empty : MemoryBuckets := ⟨[]⟩

def bucketsOf (object : String) (s : MemoryBuckets) : List Bucket :=
  s.buckets.filter (·.objectId = object)

def allocate (object : String) : MemoryBuckets × IdSource → Bucket × MemoryBuckets × IdSource
  | (s, ids) =>
      let bucket : Bucket := ⟨object, ids.next, 0⟩
      (bucket, ⟨s.buckets ++ [bucket]⟩, ids.draw)

def increment (object bucket : String) (rows : Nat) : Action MemoryBuckets StoreError Unit :=
  fun s =>
    let isMeant (b : Bucket) : Bool := b.objectId = object && b.bucketId = bucket
    if s.buckets.any isMeant then
      (.ok (), ⟨s.buckets.map fun b => if isMeant b then { b with rows := b.rows + rows } else b⟩)
    else (.error (unknownBucket object bucket), s)

instance : BucketStore MemoryBuckets where
  current object := .gets fun s => (s.bucketsOf object).getLast?
  allocate object := .modifyGet (allocate object)
  increment := increment
  bucketsOf object := .gets (bucketsOf object)

end MemoryBuckets

end Conveyor
