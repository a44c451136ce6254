import Conveyor.Config.Basic
import Conveyor.Services.Basic
import Conveyor.Stage
import Conveyor.Time.Rfc3339

/-!
# The indexing stage

* `indexStage` — makes a record searchable in the environment that its task names.
* `recordDate` — the date under which a record is indexed.
-/

namespace Conveyor

/-- The date under which a record is indexed: the one its task gives, else today's. -/
def recordDate (now : Timestamp) (e : Envelope) : Except String Timestamp :=
  match e.parameter? Parameter.recordDate with
  | none => .ok now
  | some text =>
      match Rfc3339.readStrict text with
      | .ok date => .ok date
      | .error err =>
          .error ("Cannot parse " ++ Parameter.recordDate ++ " '" ++ text ++ "': " ++ err.message)

variable {σ : Type} [Clock σ]

/-- Makes a record searchable.  A record reported as deleted is not looked at. -/
def indexStage (indexer : Indexer σ) (config : IndexingConfig) (policy : RetryPolicy) :
    Stage σ where
  name := "index"
  process e := do
    if e.isMarkedDeleted then pure (.forward e)
    else
      match e.parameter? Parameter.targetEnvironment with
      | none => pure (.failed e "Target environment is missing" "")
      | some environment =>
        match config.endpoint? environment with
        | none =>
            pure (.failed e ("No indexing configuration for environment " ++ environment) "")
        | some endpoint =>
          match recordDate (← .gets Clock.now) e, e.payload with
          | .error message, _ => pure (.failed e message "")
          | .ok _, none => pure (.failed e "Record has no content to index" "")
          | .ok date, some content => do
              retryingStep policy ("Error while indexing " ++ e.resource)
                (indexer.index endpoint content date)
              pure (.forward e)

end Conveyor
