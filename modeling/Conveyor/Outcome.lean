import Conveyor.Envelope.Basic

/-!
# Outcomes

What becomes of a record in a stage: it goes on, it fails, or it leaves for good.

* `RecordError` — a record that failed, and why.
* `Outcome` — the three ways.
-/

namespace Conveyor

/-- A record that could not be processed, and why. -/
structure RecordError where
  taskId : TaskId
  resource : String
  message : String
  details : String
deriving DecidableEq, Repr

/-- What becomes of a record in a stage. -/
inductive Outcome where
  | forward (envelope : Envelope)
  | error (e : RecordError)
  | drop (taskId : TaskId) (resource : String)
deriving DecidableEq

namespace Outcome

def failed (e : Envelope) (message details : String) : Outcome :=
  .error ⟨e.taskId, e.resource, message, details⟩

def dropped (e : Envelope) : Outcome := .drop e.taskId e.resource

end Outcome

end Conveyor
