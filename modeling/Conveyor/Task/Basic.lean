import Conveyor.Envelope.Revision

/-!
# Tasks

A task is a unit of work submitted to a topology: which records it is about, and the parameters
that the stages work with.

* `TaskId` — the number that names a task.
* `DatasetInput`, `TaskInput` — where the records of a task come from.
* `Task` — the task itself.
-/

namespace Conveyor

/-- The number of a task. -/
structure TaskId where
  value : Int
deriving DecidableEq, Repr

def TaskId.text (id : TaskId) : String := toString id.value

/-- The records of one dataset that are tagged with a revision. -/
structure DatasetInput where
  provider : String
  dataset : String
  representation : String
  revision : Revision
deriving DecidableEq

/-- Where the records of a task come from. -/
inductive TaskInput where
  | resources (resources : List String)
  | datasets (datasets : List DatasetInput)
deriving DecidableEq

/-- A submitted unit of work. -/
structure Task where
  id : TaskId
  name : String
  topology : String
  parameters : Dict String
  input : TaskInput
  outputRevision : Option Revision
  harvest : Option Harvest
  /-- Whether a task of the same number is to be replaced. -/
  restart : Bool
deriving DecidableEq

namespace Task

def new (id : TaskId) (name topology : String) : Task where
  id := id
  name := name
  topology := topology
  parameters := Dict.empty
  input := .resources []
  outputRevision := none
  harvest := none
  restart := false

def withParameter (t : Task) (key value : String) : Task :=
  { t with parameters := t.parameters.insert key value }

def withInput (t : Task) (input : TaskInput) : Task := { t with input := input }

def withOutputRevision (t : Task) (revision : Revision) : Task :=
  { t with outputRevision := some revision }

def restarted (t : Task) : Task := { t with restart := true }

def parameter? (t : Task) (key : String) : Option String := t.parameters.get? key

end Task

end Conveyor
