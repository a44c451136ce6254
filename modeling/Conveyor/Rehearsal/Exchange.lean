import Conveyor.Clock
import Conveyor.Rehearsal.Fault
import Conveyor.Services.Depot

/-!
# The exchange

The services of a rehearsal: a depot whose calls are written into a journal and fail as planned.

* `ServiceCall` — an entry of the journal; `ServiceOp` — the kinds of calls.
* `Exchange B` — the depot, the plans and the journal.
* `Exchange.call` — a call through the exchange: it is written down, whatever becomes of it.
* `Exchange.contentStore`, `archiveStore`, `metadata`, `validator`, `indexer`, `depublisher`,
  `registry` — the services as seen from a state that has an exchange as a part.
-/

namespace Conveyor

/-- The kinds of calls of services. -/
inductive ServiceOp where
  | read | fetch | create | list | validate | index | depublish | isActive
deriving DecidableEq, Repr

/-- A call of a service. -/
inductive ServiceCall where
  | read (resource : String) (authorization : Option String)
  | fetch (url : String) (authorization : Option String)
  | create (version : NewVersion)
  | list (query : DatasetInput) (token : Option String)
  | validate (content : Bytes) (schema : String) (version : Option String)
  | index (endpoint : String) (content : Bytes)
  | depublish (resource : String)
  | isActive (owner : String)
deriving DecidableEq

def ServiceCall.op : ServiceCall → ServiceOp
  | read .. => .read
  | fetch .. => .fetch
  | create .. => .create
  | list .. => .list
  | validate .. => .validate
  | index .. => .index
  | depublish .. => .depublish
  | isActive .. => .isActive

/-- A depot with plans for its calls and a journal of them. -/
structure Exchange (B : Type) where
  depot : Faulty ServiceOp StepError (Depot B)
  /-- The calls so far, the latest first. -/
  journal : List ServiceCall
  /-- The scripted rules applied so far, each by its key. -/
  applied : List (List Nat)

namespace Exchange

variable {B α σ : Type}

def depotPart : Part (Exchange B) (Faulty ServiceOp StepError (Depot B)) :=
  ⟨Exchange.depot, fun d x => { x with depot := d }⟩

def insidePart : Part (Exchange B) (Depot B) := depotPart.comp Faulty.storePart

def appliedPart : Part (Exchange B) (List (List Nat)) :=
  ⟨Exchange.applied, fun a x => { x with applied := a }⟩

/-- A call through the exchange: first written down, then carried out under the plan. -/
def call (entry : ServiceCall) (action : Action (Depot B) StepError α) :
    Action (Exchange B) StepError α := do
  .modify fun x => { x with journal := entry :: x.journal }
  (Faulty.call entry.op action).on depotPart

/-- The journal in the order of the calls, which is then emptied. -/
def takeJournal (x : Exchange B) : List ServiceCall × Exchange B :=
  (x.journal.reverse, { x with journal := [] })

variable (part : Part σ (Exchange B))

def contentStore : ContentStore σ where
  read resource authorization := (call (.read resource authorization) (Depot.read resource)).on part

/-- The archive as a content store. -/
def archiveStore : ContentStore σ where
  read url authorization := (call (.fetch url authorization) (Depot.fetch url)).on part

def metadata : MetadataService σ where
  create v := (call (.create v) (Depot.create v)).on part
  list query token := (call (.list query token) (Depot.list query token)).on part
  horizon s := (insidePart.get (part.get s)).horizon

/-- The validator, which looks for the marker. -/
def validator : Validator σ where
  validate content schema version :=
    (call (.validate content schema version)
      (.ofExcept (markerVerdict content schema version))).on part

def indexer : Indexer σ where
  index endpoint content date :=
    (call (.index endpoint content) (Depot.index endpoint content date)).on part

def depublisher : Depublisher σ where
  remove resource := (call (.depublish resource) (Depot.remove resource)).on part

def registry : RunRegistry σ where
  isActive owner := (call (.isActive owner) (Depot.isActive owner)).on part

end Exchange

end Conveyor
