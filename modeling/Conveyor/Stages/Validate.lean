import Conveyor.Retry
import Conveyor.Services.Basic
import Conveyor.Stage

/-!
# The validating stage

* `validateStage` — checks the content of a record against the schema that its task names.
-/

namespace Conveyor

variable {σ : Type} [Clock σ]

/-- Checks the content of a record.  A record reported as deleted is not looked at. -/
def validateStage (validator : Validator σ) (policy : RetryPolicy) : Stage σ where
  name := "validate"
  process e :=
    if e.isMarkedDeleted then pure (.forward e)
    else match e.parameter? Parameter.schemaName, e.payload with
      | none, _ => pure (.failed e "Schema name is missing" "")
      | some _, none => pure (.failed e "Record has no content to validate" "")
      | some schema, some content => do
          let verdict ← retryingStep policy ("Error while validating " ++ e.resource)
            (validator.validate content schema (e.parameter? Parameter.schemaVersion))
          match verdict with
          | .valid => pure (.forward e)
          | .invalid message details => pure (.failed e message details)

end Conveyor
