import Conveyor.Services.Archive
import Conveyor.Text.Search

/-!
# The depot

All services of one process, in memory.

* `Depot B` — their state, with a bucket store of type `B` for counting.
* `Depot.read`, `fetch`, `create`, `list`, `index`, `remove`, `isActive` — the calls.
* `Depot.pages` — pages that the listing answers first, whatever it is asked for.
* `markerVerdict` — a validator that looks for a marker.
-/

namespace Conveyor

/-- What an indexer was given. -/
structure IndexedRecord where
  endpoint : String
  recordDate : Timestamp
  content : Bytes
deriving DecidableEq

/-- The state of all services in memory. -/
structure Depot (B : Type) where
  content : Dict Bytes
  archive : Archive
  /-- Pages that the listing answers before it looks into the archive, one a call. -/
  pages : List (Page RevisionEntry)
  indexed : List IndexedRecord
  removed : List String
  runs : TextSet
  buckets : B
  ids : IdSource

namespace Depot

variable {B : Type}

/-- The bucket store, with the supply of names for its buckets. -/
def bucketsPart : Part (Depot B) (B × IdSource) :=
  ⟨fun d => (d.buckets, d.ids), fun s d => { d with buckets := s.1, ids := s.2 }⟩

/-- The archive, with the supply of names for its versions. -/
def archivePart : Part (Depot B) (Archive × IdSource) :=
  ⟨fun d => (d.archive, d.ids), fun s d => { d with archive := s.1, ids := s.2 }⟩

def put (resource : String) (content : Bytes) (d : Depot B) : Depot B :=
  { d with content := d.content.insert resource content }

def contentOf (resource : String) (d : Depot B) : Except StepError Bytes :=
  match d.content.get? resource with
  | some content => .ok content
  | none => .error (.permanent (.ofText ("no content at " ++ resource)))

def read (resource : String) : Action (Depot B) StepError Bytes := fun d =>
  (d.contentOf resource, d)

def fetch (url : String) : Action (Depot B) StepError Bytes := fun d => (d.archive.read url, d)

def create (v : NewVersion) : Action (Depot B) StepError String :=
  (Action.modifyGet (Archive.create v)).on archivePart

/-- A part of a listing: the next of the prepared pages, else a page of the archive. -/
def list (query : DatasetInput) (token : Option String) :
    Action (Depot B) StepError (Page RevisionEntry) := fun d =>
  match d.pages with
  | page :: rest => (.ok page, { d with pages := rest })
  | [] => (d.archive.page query token, d)

/-- A bound on the parts of any listing: the prepared pages, and one more page than the archive
lists versions. -/
def horizon (d : Depot B) : Nat := d.pages.length + d.archive.listed.length + 1

def index (endpoint : String) (content : Bytes) (date : Timestamp) :
    Action (Depot B) StepError Unit :=
  .modify fun d => { d with indexed := d.indexed ++ [⟨endpoint, date, content⟩] }

def remove (resource : String) : Action (Depot B) StepError Unit :=
  .modify fun d => { d with removed := d.removed ++ [resource] }

/-- Enters a run among those that are alive. -/
def register (owner : String) (d : Depot B) : Depot B := { d with runs := d.runs.add owner }

/-- Strikes a run off; answers whether it was alive. -/
def deregister (owner : String) (d : Depot B) : Bool × Depot B :=
  (d.runs.contains owner, { d with runs := d.runs.erase owner })

def isActive (owner : String) : Action (Depot B) StepError Bool := .gets (·.runs.contains owner)

end Depot

/-- The only schema that the marker validator knows. -/
def markerSchema : String := "edm"

/-- What content has to hold to be valid. -/
def marker : Bytes := "<rdf".toUTF8.toList

/-- The verdict of a validator that looks for the marker. -/
def markerVerdict (content : Bytes) (schema : String) (version : Option String) :
    Except StepError Verdict :=
  if schema ≠ markerSchema then
    .error (.permanent (.ofText ("schema " ++ schema ++ " not found")))
  else if Text.occursIn marker content then .ok .valid
  else
    .ok (.invalid "Document is not RDF"
      ("schema " ++ schema ++ " version " ++ version.getD "-"))

end Conveyor
