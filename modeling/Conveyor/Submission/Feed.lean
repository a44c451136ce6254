import Conveyor.Retry
import Conveyor.Services.Basic

/-!
# Feeds

Where the records of a task come from.  A feed gives one record after another and may have to ask
a service before it can go on, so a record is handed out before the next question is asked.

* `SourceRecord` — a record to be submitted.
* `Feed σ` — records and questions to services of state `σ`; `Feed.each` does something with every
  record.
* `RecordSource σ` — the feed of a task.
* `listedResources` — the source that only knows tasks which list their resources.
* `datasetRevisions` — the source that looks up the records of datasets in a metadata service.
-/

namespace Conveyor

/-- A record to be submitted. -/
structure SourceRecord where
  resource : String
  /-- The key that chooses the record's partition, if it is not the resource. -/
  routingKey : Option String
  deleted : Bool
deriving DecidableEq, Repr

namespace SourceRecord

def ofResource (resource : String) : SourceRecord := ⟨resource, none, false⟩

def ofEntry (e : RevisionEntry) : SourceRecord := ⟨e.fileUrl, some e.cloudId, e.deleted⟩

end SourceRecord

/-- The records of a task, and the questions that have to be asked for them. -/
inductive Feed (σ : Type) : Type 1 where
  | done
  | broken (error : StepError)
  | record (r : SourceRecord) (rest : Feed σ)
  | ask {α : Type} (call : Action σ StepError α) (rest : α → Feed σ)

/-- How the records of a task are told. -/
abbrev RecordSource (σ : Type) : Type 1 := Task → Feed σ

namespace Feed

variable {σ τ ε : Type}

/-- Some records, and then those of another feed. -/
def ofRecords (records : List SourceRecord) (rest : Feed σ) : Feed σ := records.foldr record rest

/-- Does something with every record and answers their number.  The services that the feed asks
are a part of the state; what goes wrong there is reworded. -/
def each (part : Part τ σ) (reword : StepError → ε) (visit : SourceRecord → Action τ ε Unit) :
    Feed σ → Action τ ε Nat
  | done => pure 0
  | broken error => .fail (reword error)
  | record r rest => do
      visit r
      let n ← each part reword visit rest
      pure (n + 1)
  | ask call rest => do
      let answer ← (call.on part).mapError reword
      each part reword visit (rest answer)

end Feed

variable {σ : Type}

/-- The feed of listed resources. -/
def Feed.ofResources (resources : List String) : Feed σ :=
  Feed.ofRecords (resources.map SourceRecord.ofResource) .done

/-- Tells the records of tasks that list their resources, and of no others. -/
def listedResources : RecordSource σ := fun task =>
  match task.input with
  | .resources names => Feed.ofResources names
  | .datasets _ =>
      .broken (.permanent (.ofText
        ("task " ++ task.id.text ++ " lists datasets but no dataset source is configured")))

variable [Clock σ]

def listingPage (metadata : MetadataService σ) (policy : RetryPolicy) (input : DatasetInput)
    (token : Option String) : Action σ StepError (Page RevisionEntry) :=
  retryingStep policy
    ("Error while listing revision " ++ input.revision.name ++ " of " ++ input.provider ++ "/" ++
      input.dataset)
    (metadata.list input token)

/-- The records on a page that belong to the wanted representation. -/
def pageRecords (input : DatasetInput) (page : Page RevisionEntry) : List SourceRecord :=
  (page.results.filter (·.representation = input.representation)).map SourceRecord.ofEntry

/-- The records of a dataset from a token on, on at most `limit` pages, and then those of another
feed.  A page with a token is followed even if it is empty. -/
def datasetFeed (metadata : MetadataService σ) (policy : RetryPolicy) (input : DatasetInput)
    (rest : Feed σ) : Nat → Option String → Feed σ
  | 0, _ => rest
  | limit + 1, token =>
      .ask (listingPage metadata policy input token) fun page =>
        Feed.ofRecords (pageRecords input page) <|
          match page.next with
          | some next => datasetFeed metadata policy input rest limit (some next)
          | none => rest

/-- The records of datasets, one dataset after the other. -/
def datasetsFeed (metadata : MetadataService σ) (policy : RetryPolicy) :
    List DatasetInput → Feed σ
  | [] => .done
  | input :: inputs =>
      .ask (.gets metadata.horizon) fun limit =>
        datasetFeed metadata policy input (datasetsFeed metadata policy inputs) limit none

/-- **Tells the records of all tasks**: listed resources as they are, and those of datasets by
looking them up. -/
def datasetRevisions (metadata : MetadataService σ) (policy : RetryPolicy) : RecordSource σ :=
  fun task =>
    match task.input with
    | .resources names => Feed.ofResources names
    | .datasets inputs => datasetsFeed metadata policy inputs

end Conveyor
