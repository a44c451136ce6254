/-!
# Misuse

What a caller can get wrong that no input data can: asking for an impossible configuration.  A
misuse stops the whole request; it is not an outcome of a record.

* `Misuse` — the two kinds.
* `Misuse.message` — what is said about each.
-/

namespace Conveyor

/-- A request that makes no sense. -/
inductive Misuse where
  | noBuckets
  | noCapacity
deriving DecidableEq, Repr

def Misuse.message : Misuse → String
  | noBuckets => "bucket count must be at least 1"
  | noCapacity => "bucket capacity must be at least 1"

end Conveyor
