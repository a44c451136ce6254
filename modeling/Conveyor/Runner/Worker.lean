import Conveyor.Plant
import Conveyor.Topology.Basic

/-!
# Workers

A worker runs one stage of a topology over one partition of its topic.  It claims a batch of
messages and acknowledges a message only after its outcome was recorded: published to the next
stage, or reported to the tracker.  A message whose outcome cannot be recorded is released, so that
it is delivered again.

* `Worker V` — what a worker works on.
* `Worker.examine` — what becomes of a message.
* `Worker.settle` — recording it; `Worker.handle` does both.
* `Worker.poll` — a batch; the answer is how many messages were acknowledged.
-/

namespace Conveyor

/-- A worker on one partition of a stage's topic. -/
structure Worker (V : Type) where
  topology : Topology V
  stage : Stage V
  topic : String
  /-- The topic of the next stage. -/
  next : Option String
  partition : Nat
  /-- How many messages the worker claims at once. -/
  batch : Nat
  batch_pos : 0 < batch

namespace Worker

/-- The worker for the stage at an index, if there is one; it claims at least one message. -/
def new? {V : Type} (topology : Topology V) (index partition batch : Nat) : Option (Worker V) :=
  topology.stages[index]?.map fun stage =>
    { topology := topology
      stage := stage
      topic := stageTopic topology.name stage.name
      next := topology.topic? (index + 1)
      partition := partition
      batch := max 1 batch
      batch_pos := Nat.lt_of_lt_of_le Nat.one_pos (Nat.le_max_left ..) }

variable {Q T N V : Type} [MessageQueue Q] [TaskStore T] [NotificationSink N] [Clock V]

/-- Whether nothing is to be done about a message any more, because its task was dropped. -/
def isVoid (d : Delivery) : Action (Plant Q T N V) StoreError Bool :=
  Plant.onTracker (Tracker.isDropped d.envelope.taskId)

/-- Runs the stage on a message; none if nothing is to be done about it. -/
def examine (w : Worker V) (d : Delivery) : Action (Plant Q T N V) StoreError (Option Outcome) := do
  if ← isVoid d then pure none
  else
    let outcome ← Plant.onServices (.modifyGet (w.stage.run d.envelope))
    pure (some outcome)

/-- Records an outcome: hands the record to the next stage, or reports its end. -/
def record (w : Worker V) (taskId : TaskId) : Outcome → Action (Plant Q T N V) StoreError Unit
  | .forward e =>
      match w.next with
      | some topic => do
          let _ ← Plant.onQueue (MessageQueue.publish topic (w.topology.partitionFor e) e)
      | none => do
          let _ ← Plant.report fun now => Tracker.processed now taskId
  | .error e => do
      let _ ← Plant.report fun now => Tracker.failed now e
  | .drop taskId resource => do
      let _ ← Plant.report fun now => Tracker.deleted now taskId resource

/-- Records what became of a message and acknowledges it. -/
def settle (w : Worker V) (d : Delivery) (outcome : Option Outcome) :
    Action (Plant Q T N V) StoreError Unit := do
  match outcome with
  | some outcome => w.record d.envelope.taskId outcome
  | none => pure ()
  Plant.onQueue (MessageQueue.ack d.id)

/-- Makes a message pending again, if that can be done. -/
def giveBack (d : Delivery) (p : Plant Q T N V) : Plant Q T N V :=
  (Plant.onQueue (MessageQueue.release d.id) p).2

/-- Settles a message and counts it if it was acknowledged; else the message is given back. -/
def conclude (w : Worker V) (d : Delivery) (outcome : Option Outcome) (p : Plant Q T N V) :
    Nat × Plant Q T N V :=
  match w.settle d outcome p with
  | (.ok (), p) => (1, p)
  | (.error _, p) => (0, giveBack d p)

/-- Deals with a message and counts it if it was acknowledged. -/
def handle (w : Worker V) (d : Delivery) (p : Plant Q T N V) : Nat × Plant Q T N V :=
  match w.examine d p with
  | (.ok outcome, p) => w.conclude d outcome p
  | (.error _, p) => (0, giveBack d p)

/-- Deals with the messages of a batch in order and counts those that were acknowledged. -/
def serve (w : Worker V) : List Delivery → Plant Q T N V → Nat × Plant Q T N V
  | [], p => (0, p)
  | d :: rest, p =>
      let (here, p) := w.handle d p
      let (there, p) := w.serve rest p
      (here + there, p)

/-- Claims a batch. -/
def claim (w : Worker V) : Action (Plant Q T N V) StoreError (List Delivery) :=
  Plant.onQueue (MessageQueue.claim w.topic w.partition w.batch)

/-- **Claims a batch and deals with it.** -/
def poll (w : Worker V) : Action (Plant Q T N V) StoreError Nat := do
  let batch ← w.claim
  .modifyGet (w.serve batch)

end Worker

end Conveyor
