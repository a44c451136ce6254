import Conveyor.Task.Basic

/-!
# The progress of a task

What is known about a task on its way: its state, how many records it is expected to have, and how
many have come to which end.

* `TaskState` — the five states; the last three are terminal.
* `Counter` — the four ends that a record can come to.
* `TaskInfo` — the progress record.
* `TaskInfo.finished`, `TaskInfo.isAccounted`, `TaskInfo.forwarded` — what the counts add up to.
-/

namespace Conveyor

/-- The state of a task. -/
inductive TaskState where
  | pending
  | processing
  | processed
  | dropped
  | failed
deriving DecidableEq, Repr

namespace TaskState

/-- All states, in the order of a task's life. -/
def all : List TaskState := [pending, processing, processed, dropped, failed]

def name : TaskState → String
  | pending => "PENDING"
  | processing => "CURRENTLY_PROCESSING"
  | processed => "PROCESSED"
  | dropped => "DROPPED"
  | failed => "FAILED"

/-- Whether a task in this state is done for good. -/
def isTerminal : TaskState → Bool
  | pending | processing => false
  | processed | dropped | failed => true

/-- The states that are not terminal. -/
def active : List TaskState := [pending, processing]

/-- The wording for a name that no state has. -/
def unknownMessage (name : String) : String := "unknown task state: " ++ name

def ofName? (name : String) : Option TaskState := all.find? (·.name = name)

@[simp] theorem ofName?_name (s : TaskState) : ofName? s.name = some s := by
  cases s <;> decide

theorem mem_active_iff {s : TaskState} : s ∈ active ↔ s.isTerminal = false := by
  cases s <;> decide

end TaskState

/-- The ends a record can come to, each with a count of its own. -/
inductive Counter where
  | processed
  | errors
  | deleted
  | postProcessed
deriving DecidableEq, Repr

/-- The expected number of records of a task of which it is not known. -/
def unknownCount : Int := -1

/-- The progress record of a task. -/
structure TaskInfo where
  id : TaskId
  topology : String
  state : TaskState
  description : String
  /-- The run that works on the task. -/
  owner : Option String
  expected : Int
  processed : Int
  errors : Int
  deleted : Int
  postProcessed : Int
  /-- The first condition that makes the task fail once its records are through. -/
  fatal : Option String
  sentAt : Timestamp
  startedAt : Option Timestamp
  finishedAt : Option Timestamp
deriving DecidableEq

namespace TaskInfo

def new (now : Timestamp) (id : TaskId) (topology : String) (expected : Int)
    (owner : Option String) : TaskInfo where
  id := id
  topology := topology
  state := .pending
  description := "The task is in a pending mode"
  owner := owner
  expected := expected
  processed := 0
  errors := 0
  deleted := 0
  postProcessed := 0
  fatal := none
  sentAt := now
  startedAt := none
  finishedAt := none

def count (t : TaskInfo) : Counter → Int
  | .processed => t.processed
  | .errors => t.errors
  | .deleted => t.deleted
  | .postProcessed => t.postProcessed

/-- The records that have come to an end. -/
def finished (t : TaskInfo) : Int := t.processed + t.errors + t.deleted + t.postProcessed

/-- Whether the expected number of records is known and reached. -/
def isAccounted (t : TaskInfo) : Bool := 0 ≤ t.expected ∧ t.expected ≤ t.finished

/-- The records that a task which builds on this one can expect: all that did not go wrong. -/
def forwarded (t : TaskInfo) : Int := t.processed + t.deleted + t.postProcessed

def isActive (t : TaskInfo) : Bool := !t.state.isTerminal

def bump (t : TaskInfo) : Counter → TaskInfo
  | .processed => { t with processed := t.processed + 1 }
  | .errors => { t with errors := t.errors + 1 }
  | .deleted => { t with deleted := t.deleted + 1 }
  | .postProcessed => { t with postProcessed := t.postProcessed + 1 }

end TaskInfo

end Conveyor
