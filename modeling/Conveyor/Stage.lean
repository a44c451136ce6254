import Conveyor.Action
import Conveyor.Outcome
import Conveyor.StepError

/-!
# Stages

A stage is one step on a record's way.  It may call services, which are part of the state it acts
on, and such a call may fail.

* `Stage σ` — a named step on a state `σ`.
* `Stage.run` — the step with a failed call turned into the failure of the record.
* `runChain` — a record through several stages, until it leaves.
-/

namespace Conveyor

/-- A step on a record's way, with access to services of state `σ`. -/
structure Stage (σ : Type) where
  name : String
  process : Envelope → Action σ StepError Outcome

/-- The outcome of a record whose stage failed: an error that names the failure and reports its
causes. -/
def Outcome.ofStepError (e : Envelope) (err : StepError) : Outcome :=
  .failed e err.failure.text err.failure.report

variable {σ : Type}

/-- **One step of a record.**  It always has an outcome: a failed call is the record's error. -/
def Stage.run (stage : Stage σ) (e : Envelope) (s : σ) : Outcome × σ :=
  match stage.process e s with
  | (.ok outcome, s') => (outcome, s')
  | (.error err, s') => (.ofStepError e err, s')

/-- A record through stages in order, until one does not forward it. -/
def runChain : List (Stage σ) → Envelope → σ → Outcome × σ
  | [], e, s => (.forward e, s)
  | stage :: rest, e, s =>
      match stage.run e s with
      | (.forward e', s') => runChain rest e' s'
      | ended => ended

end Conveyor
