import Conveyor.Buckets.Counter
import Conveyor.Locator
import Conveyor.Retry
import Conveyor.Services.Basic
import Conveyor.Stage

/-!
# The writing stage

* `writeStage` — stores the content of a record as a new version and counts it.
* `versionOf` — the version that an envelope asks for, or what it lacks.
* `Envelope.written` — the envelope of a record that was stored.
-/

namespace Conveyor

/-- The type of written files where the task says nothing else. -/
def standardMimeType : String := "text/xml"

/-- A value that must be there. -/
def orMissing {α : Type} (value : Option α) (message : String) : Except String α :=
  match value with
  | some a => .ok a
  | none => .error message

/-- The version that an envelope asks for, or the first thing that it lacks.  Record and file may
be named by the locator of the resource, and the file also by the record. -/
def versionOf (e : Envelope) : Except String NewVersion := do
  let locator := Locator.parse? e.resource
  let record ← orMissing (e.parameter? Parameter.cloudId <|> locator.map (·.record))
    "Cannot determine the record identifier"
  let representation ← orMissing (e.parameter? Parameter.newRepresentationName)
    "Output representation name is missing"
  let provider ← orMissing (e.parameter? Parameter.providerId) "Provider id is missing"
  let content ← orMissing e.payload "Record has no content to write"
  pure
    { cloudId := record
      representation := representation
      provider := provider
      dataset := e.parameter? Parameter.outputDataset
      fileName := (e.parameter? Parameter.fileName <|> locator.map (·.file)).getD record
      mimeType := (e.parameter? Parameter.outputMimeType).getD standardMimeType
      content := content
      revision := e.revision
      authorization := e.parameter? Parameter.authorization }

/-- The envelope of a record that was stored at an address: empty, without the parameters that say
where it was read from. -/
def Envelope.written (e : Envelope) (url : String) : Envelope :=
  { Parameter.transient.foldl Envelope.withoutParameter
      (e.withParameter Parameter.outputUrl url) with payload := none }

variable {σ : Type} [Clock σ]

/-- Counts a stored version of a dataset. -/
def countVersion (index : Option (RevisionIndex σ)) (policy : RetryPolicy) (v : NewVersion) :
    Action σ StepError Unit :=
  match index, v.dataset with
  | some index, some dataset =>
      let object := datasetObject v.provider dataset
      retryingStep policy ("Error while counting " ++ object) (index.count object)
  | _, _ => pure ()

/-- Stores the content of a record as a new version and counts it.  A record reported as deleted
is removed instead. -/
def writeStage (metadata : MetadataService σ) (index : Option (RevisionIndex σ))
    (policy : RetryPolicy) : Stage σ where
  name := "write"
  process e :=
    if e.isMarkedDeleted then pure (.dropped e)
    else match versionOf e with
      | .error message => pure (.failed e message "")
      | .ok version => do
          let url ← retryingStep policy ("Error while writing " ++ e.resource)
            (metadata.create version)
          countVersion index policy version
          pure (.forward (e.written url))

/-- Counting in buckets. -/
def bucketIndex {B : Type} [BucketStore B] (counter : BucketedCounter)
    (part : Part σ (B × IdSource)) : RevisionIndex σ where
  count object := do
    let _ ← ((counter.addRow object).on part).mapError StoreError.toStepError

end Conveyor
