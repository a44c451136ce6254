import Conveyor.Plant
import Conveyor.Submission.Feed
import Conveyor.Text.Blank
import Conveyor.Text.Decimal
import Conveyor.Topology.Basic

/-!
# Submission

A task is accepted by registering it with the tracker; then its records are published, each to its
partition of the first topic of its topology.  Nothing is published for a task that was not
registered, and a task whose records cannot all be published fails.

* `Submitter` — what it knows: topologies, a source of records, and a policy for look-ups.
* `Submitter.submit` — the whole of it; `Submission` is its summary, `SubmitError` its failure.
* `Submitter.expectedFromPrevious` — how many records a task can expect that builds on another.
* `Submitter.publishRecords` — the publication of a task's records.
-/

namespace Conveyor

/-- Why a task was not accepted. -/
inductive SubmitError where
  | unknownTopology (name : String)
  | alreadyExists (task : TaskId)
  | previousTaskLookup (previous : TaskId) (source : RetryError)
  | tracker (source : StoreError)
  | source (task : TaskId) (source : StepError)
  | publish (task : TaskId) (source : StoreError)
deriving DecidableEq, Repr

def SubmitError.message : SubmitError → String
  | unknownTopology name => "unknown topology: " ++ name
  | alreadyExists task =>
      "task " ++ task.text ++ " already exists; resubmit it with restart to replace it"
  | previousTaskLookup previous err =>
      "cannot look up previous task " ++ previous.text ++ ": " ++ err.message
  | tracker err => "task tracker error: " ++ err.message
  | source task err => "cannot list records of task " ++ task.text ++ ": " ++ err.message
  | publish task err => "cannot publish records of task " ++ task.text ++ ": " ++ err.message

/-- The summary of an accepted task. -/
structure Submission where
  task : TaskId
  topic : String
  published : Nat
  expected : Int
deriving DecidableEq, Repr

/-- What tasks are submitted with. -/
structure Submitter (V : Type) where
  topologies : Dict (Topology V)
  source : RecordSource V
  /-- How failed look-ups of earlier tasks are retried. -/
  policy : RetryPolicy
  /-- The run that accepted tasks belong to. -/
  owner : Option String

/-- The envelope in which a record of a task sets out. -/
def SourceRecord.envelope (task : Task) (r : SourceRecord) : Envelope :=
  let e := Envelope.ofTask task r.resource
  let e := match r.routingKey with
    | some key => e.withParameter Parameter.routingKey key
    | none => e
  if r.deleted then e.withParameter Parameter.markedDeleted "true" else e

/-- The number of the task that a task builds on, if it names one. -/
def Task.previous? (task : Task) : Option TaskId := do
  let text ← task.parameter? Parameter.previousTaskId
  let number ← Text.readSigned? (Text.trim text)
  pure ⟨number⟩

namespace Submitter

variable {Q T N V : Type} [MessageQueue Q] [TaskStore T] [NotificationSink N] [Clock V]

/-- How many records a task can expect that builds on another: as many as that forwarded.  It is
not known if no task is named, or one that does not exist. -/
def expectedFromPrevious (s : Submitter V) (task : Task) :
    Action (Plant Q T N V) SubmitError Int :=
  match task.previous? with
  | none => pure unknownCount
  | some previous => do
      let info ← (retrying s.policy ("Error while reading task " ++ previous.text)
        ((Plant.onTracker (Tracker.find previous)).mapError StoreError.toStepError)).mapError
        (.previousTaskLookup previous)
      pure ((info.map TaskInfo.forwarded).getD unknownCount)

/-- Publishes a record of a task. -/
def publishRecord (topology : Topology V) (task : Task) (r : SourceRecord) :
    Action (Plant Q T N V) SubmitError Unit := do
  let e := r.envelope task
  let _ ← (Plant.onQueue (MessageQueue.publish topology.entryTopic (topology.partitionFor e) e)
    ).mapError (.publish task.id)

/-- Publishes the records of a task in order and answers their number. -/
def publishRecords (s : Submitter V) (topology : Topology V) (task : Task) :
    Action (Plant Q T N V) SubmitError Nat :=
  (s.source task).each Plant.servicesPart (.source task.id) (publishRecord topology task)

/-- Registers a task and puts it in progress. -/
def accept (s : Submitter V) (topology : Topology V) (task : Task) (expected : Int) :
    Action (Plant Q T N V) SubmitError Unit := do
  let now ← .gets Clock.now
  let info := TaskInfo.new now task.id topology.name expected s.owner
  (Plant.onTracker (Tracker.register info task.restart)).mapError fun
    | .alreadyExists _ => .alreadyExists task.id
    | err => .tracker err
  let _ ← (Plant.report fun now => Tracker.start now task.id).mapError .tracker

/-- Publishes the records of an accepted task; if that does not succeed, the task fails. -/
def publishOrFail (s : Submitter V) (topology : Topology V) (task : Task) :
    Action (Plant Q T N V) SubmitError Nat :=
  (publishRecords s topology task).recover fun err => do
    let _ ← (Plant.report fun now => Tracker.failTask now task.id err.message).attempt
    .fail err

/-- **Submits a task.** -/
def submit (s : Submitter V) (task : Task) : Action (Plant Q T N V) SubmitError Submission :=
  match s.topologies.get? task.topology with
  | none => .fail (.unknownTopology task.topology)
  | some topology => do
      let known ← if topology.chained then s.expectedFromPrevious task else pure unknownCount
      s.accept topology task known
      let published ← s.publishOrFail topology task
      let expected : Int := if known = unknownCount then published else known
      (Plant.report fun now => Tracker.setExpected now task.id expected).mapError .tracker
      pure ⟨task.id, topology.entryTopic, published, expected⟩

end Submitter

end Conveyor
