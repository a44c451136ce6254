import Conveyor.Stage

/-!
# Topologies

A topology is a chain of stages.  Between stages its records wait on topics, one topic a stage,
each divided into the same number of partitions; a record's routing key chooses its partition.

* `Topology σ` — the chain, with what makes it usable: stages, partitions, distinct names.
* `Topology.topic?`, `Topology.entryTopic` — the topics of its stages.
* `Topology.partitionFor` — the partition of a record.
* `Topology.runRecord` — a record through the whole chain at once.
* `Topology.graph` — what the topology looks like.
-/

namespace Conveyor

/-- The topic on which the records of a stage wait. -/
def stageTopic (topology stage : String) : String := topology ++ "." ++ stage

/-- What is said about a stage. -/
structure Annotation where
  description : Option String
  tags : Dict String
deriving DecidableEq

/-- A stage with what is said about it. -/
structure StageEntry (σ : Type) where
  stage : Stage σ
  annotation : Annotation

/-- A chain of stages whose records wait on topics between them. -/
structure Topology (σ : Type) where
  name : String
  partitions : Nat
  /-- Whether its tasks build on the records of an earlier task. -/
  chained : Bool
  entries : List (StageEntry σ)
  entries_ne_nil : entries ≠ []
  partitions_pos : 0 < partitions
  names_nodup : (entries.map fun e => e.stage.name).Nodup

namespace Topology

variable {σ : Type}

def stages (t : Topology σ) : List (Stage σ) := t.entries.map (·.stage)

def topic? (t : Topology σ) (index : Nat) : Option String :=
  t.stages[index]?.map fun stage => stageTopic t.name stage.name

def entryTopic (t : Topology σ) : String :=
  stageTopic t.name (t.entries.head t.entries_ne_nil).stage.name

def topics (t : Topology σ) : List String := t.stages.map fun stage => stageTopic t.name stage.name

/-- The partition of a record, the same on every topic. -/
def partitionFor (t : Topology σ) (e : Envelope) : Nat := e.bucketNumber t.partitions

/-- **The whole way of a record** in one go. -/
def runRecord (t : Topology σ) (e : Envelope) (s : σ) : Outcome × σ := runChain t.stages e s

theorem partitionFor_lt (t : Topology σ) (e : Envelope) : t.partitionFor e < t.partitions :=
  Hash.bucketNumber_lt _ t.partitions_pos

end Topology

/-! ## The graph of a topology -/

/-- A stage in the graph of a topology. -/
structure GraphNode where
  name : String
  index : Nat
  topic : String
  annotation : Annotation
deriving DecidableEq

/-- What a topology looks like. -/
structure Graph where
  name : String
  partitions : Nat
  nodes : List GraphNode
deriving DecidableEq

namespace Topology

variable {σ : Type}

/-- The nodes of stages whose first has the given index. -/
def nodesFrom (topology : String) (index : Nat) : List (StageEntry σ) → List GraphNode
  | [] => []
  | e :: rest =>
      ⟨e.stage.name, index, stageTopic topology e.stage.name, e.annotation⟩ ::
        nodesFrom topology (index + 1) rest

def graph (t : Topology σ) : Graph := ⟨t.name, t.partitions, nodesFrom t.name 0 t.entries⟩

end Topology

end Conveyor
