import Conveyor.Retry
import Conveyor.Services.Basic
import Conveyor.Stage

/-!
# The depublishing stage

* `depublishStage` — takes a record out of publication; it is then removed.
-/

namespace Conveyor

variable {σ : Type} [Clock σ]

/-- Takes a record out of publication, whether or not it was reported as deleted. -/
def depublishStage (depublisher : Depublisher σ) (policy : RetryPolicy) : Stage σ where
  name := "depublish"
  process e := do
    retryingStep policy ("Error while depublishing " ++ e.resource) (depublisher.remove e.resource)
    pure (.dropped e)

end Conveyor
