import Conveyor.Locator
import Conveyor.Retry
import Conveyor.Services.Basic
import Conveyor.Stage

/-!
# The reading stage

* `readStage` — fetches the content of a record.
* `Envelope.located` — an envelope whose resource is a locator, with the parts of that locator as
  parameters.
-/

namespace Conveyor

/-- An envelope with the parts of its resource's locator as parameters, if it is a locator. -/
def Envelope.located (e : Envelope) : Envelope :=
  match Locator.parse? e.resource with
  | none => e
  | some l =>
      (((e.withParameter Parameter.cloudId l.record).withParameter
        Parameter.representationName l.representation).withParameter
        Parameter.representationVersion l.version).withParameter Parameter.fileName l.file

variable {σ : Type} [Clock σ]

/-- Fetches the content of a record.  A record reported as deleted has none and goes on as it is. -/
def readStage (store : ContentStore σ) (policy : RetryPolicy) : Stage σ where
  name := "read"
  process e := do
    let e := e.located
    if e.isMarkedDeleted then pure (.forward e)
    else do
      let content ← retryingStep policy ("Error while reading " ++ e.resource)
        (store.read e.resource (e.parameter? Parameter.authorization))
      pure (.forward (e.withPayload content))

end Conveyor
