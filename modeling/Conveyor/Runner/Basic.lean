import Conveyor.Config.Basic
import Conveyor.Runner.Worker

/-!
# Runners

A runner has a worker for every partition of every stage of its topologies.

* `Runner V` — the workers and the topics they work on.
* `Runner.recover` — makes messages pending that an earlier run left in flight.
* `Runner.poll` — every worker once; `Runner.drain` — until there is nothing to do.
* `Runner.outstanding` — the messages that are still to be dealt with.
-/

namespace Conveyor

/-- The workers of some topologies. -/
structure Runner (V : Type) where
  /-- The workers, by topology, stage and partition. -/
  workers : List (Worker V)
  topics : List String
  /-- How long a worker waits that has found nothing to do. -/
  pollInterval : Millis

namespace Runner

section

variable {V : Type}

def workersOf (batch : Nat) (t : Topology V) : List (Worker V) :=
  (List.range t.entries.length).flatMap fun index =>
    (List.range t.partitions).filterMap fun partition => Worker.new? t index partition batch

/-- A runner of topologies; its workers wait at least a millisecond. -/
def new (topologies : List (Topology V)) (pollInterval : Millis) (batch : Nat) : Runner V where
  workers := topologies.flatMap (workersOf batch)
  topics := topologies.flatMap Topology.topics
  pollInterval := max 1 pollInterval

end

variable {Q T N V : Type} [MessageQueue Q]

/-- Makes all messages on the runner's topics pending that are in flight. -/
def recover (r : Runner V) : Action (Plant Q T N V) StoreError Nat :=
  .sum r.topics fun topic => Plant.onQueue (MessageQueue.recover topic)

/-- The number of messages on the runner's topics that are not acknowledged. -/
def outstanding (r : Runner V) : Action (Plant Q T N V) StoreError Nat :=
  .sum r.topics fun topic => Plant.onQueue (MessageQueue.outstanding topic)

variable [TaskStore T] [NotificationSink N] [Clock V]

def poll (r : Runner V) : Action (Plant Q T N V) StoreError Nat := .sum r.workers Worker.poll

/-- Polls until nothing is acknowledged, but no more than `limit` times in a row. -/
def drainWithin (r : Runner V) : Nat → Action (Plant Q T N V) StoreError Nat
  | 0 => pure 0
  | limit + 1 => do
      let here ← r.poll
      if here = 0 then pure 0
      else
        let there ← r.drainWithin limit
        pure (here + there)

/-- A bound on the messages that can be acknowledged: each of those that there are, and that failing
calls may add, once for every stage. -/
def horizon (r : Runner V) (p : Plant Q T N V) : Nat :=
  MessageQueue.backlog p.queue * r.topics.length

/-- **Polls until there is nothing to do**, in no more rounds than the horizon allows.  So many are
enough where every round that acknowledges something brings the messages closer to their ends: then
a drain is polling without a bound, `Runner.Drains`.  Elsewhere, where topics lead in circles or an
acknowledged message is delivered again, polling without a bound may go on for ever; a drain stops
there when its rounds are used up. -/
def drain (r : Runner V) : Action (Plant Q T N V) StoreError Nat := fun p =>
  r.drainWithin (r.horizon p + 1) p

end Runner

end Conveyor
