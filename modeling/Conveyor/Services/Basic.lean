import Conveyor.Action
import Conveyor.Services.Listing
import Conveyor.StepError

/-!
# Services

The services that stages, submission and the monitor call.  Each is a record of its calls as
actions on a state, which stands for everything outside the conveyor.

* `ContentStore`, `MetadataService` — where records are read from and written to.
* `Validator`, `Indexer`, `Depublisher` — what is done with their content.
* `RevisionIndex` — where written records are counted.
* `RunRegistry` — which runs are alive.
-/

namespace Conveyor

/-- The content of a record. -/
abbrev Bytes := List UInt8

/-- What a validator finds. -/
inductive Verdict where
  | valid
  | invalid (message details : String)
deriving DecidableEq, Repr

/-- Where the content of records is read. -/
structure ContentStore (σ : Type) where
  /-- The content of a resource, read with the given credentials. -/
  read : String → Option String → Action σ StepError Bytes

/-- Where versions of records are kept. -/
structure MetadataService (σ : Type) where
  /-- Stores a version and answers the address of its file. -/
  create : NewVersion → Action σ StepError String
  /-- A part of the listing of a dataset's versions of a revision, behind the given token. -/
  list : DatasetInput → Option String → Action σ StepError (Page RevisionEntry)
  /-- A bound on the parts of any listing that begins in a state. -/
  horizon : σ → Nat

/-- What checks records against a schema. -/
structure Validator (σ : Type) where
  /-- Checks content against a schema, in a version of it. -/
  validate : Bytes → String → Option String → Action σ StepError Verdict

/-- What makes records searchable. -/
structure Indexer (σ : Type) where
  /-- Indexes content at an endpoint under a date. -/
  index : String → Bytes → Timestamp → Action σ StepError Unit

/-- What takes records out of publication. -/
structure Depublisher (σ : Type) where
  remove : String → Action σ StepError Unit

/-- Where written records are counted by dataset. -/
structure RevisionIndex (σ : Type) where
  count : String → Action σ StepError Unit

/-- What knows which runs are alive. -/
structure RunRegistry (σ : Type) where
  isActive : String → Action σ StepError Bool

end Conveyor
