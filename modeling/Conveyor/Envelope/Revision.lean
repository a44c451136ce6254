import Conveyor.Dict
import Conveyor.Time.Timestamp

/-!
# Revisions and harvests

What a task says about where its records come from and how the records it writes are to be tagged.

* `Revision` — a tag on written records: a name, who gave it, when, and further tags.
* `Harvest` — the endpoint that records were harvested from.
-/

namespace Conveyor

/-- A revision that records are tagged with. -/
structure Revision where
  name : String
  provider : String
  timestamp : Timestamp
  tags : TextSet
deriving DecidableEq

namespace Revision

def new (name provider : String) (timestamp : Timestamp) : Revision :=
  ⟨name, provider, timestamp, Dict.empty⟩

def withTag (r : Revision) (tag : String) : Revision := { r with tags := r.tags.add tag }

end Revision

/-- The endpoint that records were harvested from, and which part of it. -/
structure Harvest where
  url : String
  /-- The form in which the endpoint was asked for its metadata. -/
  metadataForm : String
  /-- The part of the endpoint's records that was asked for. -/
  subset : Option String
  earliest : Option Timestamp
  latest : Option Timestamp
deriving DecidableEq

end Conveyor
