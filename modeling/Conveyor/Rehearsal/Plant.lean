import Conveyor.Plant
import Conveyor.Rehearsal.Exchange
import Conveyor.Rehearsal.Script
import Conveyor.Stages.Depublish
import Conveyor.Stages.Index
import Conveyor.Stages.Read
import Conveyor.Stages.Validate
import Conveyor.Stages.Write

/-!
# A plant to rehearse with

A plant whose stores and services fail on demand, whose services are all in memory, and whose
clock moves only while something sleeps.

* `RehearsalPlant` — the type.
* `RehearsalPlant.start` — the plant before anything has happened.
* `Rehearsal.Fittings` — what the stages of a rehearsal are built with; `Fittings.stage` builds one.
-/

namespace Conveyor

/-- The services of a rehearsal. -/
abbrev RehearsalServices (B : Type) : Type := Timed (Exchange (Faulty BucketOp StoreError B))

/-- A plant whose stores and services fail on demand. -/
abbrev RehearsalPlant (Q T N B : Type) : Type :=
  Plant (Faulty QueueOp StoreError Q) (Faulty TaskOp StoreError T) (Faulty NoticeOp StoreError N)
    (RehearsalServices B)

namespace RehearsalPlant

variable {Q T N B : Type}

/-- The plant before anything has happened. -/
def start (queue : Q) (tasks : T) (notices : N) (buckets : B) (archive : Archive) (ids : IdSource)
    (now : Timestamp) : RehearsalPlant Q T N B where
  queue := .ofStore queue
  tracker := ⟨.ofStore tasks, .ofStore notices⟩
  services := .start now
    { depot := .ofStore
        { content := Dict.empty
          archive := archive
          pages := []
          indexed := []
          removed := []
          runs := Dict.empty
          buckets := .ofStore buckets
          ids := ids }
      journal := []
      applied := [] }

end RehearsalPlant

namespace Rehearsal

variable {B : Type}

def exchangePart : Part (RehearsalServices B) (Exchange (Faulty BucketOp StoreError B)) :=
  Timed.innerPart

def depotPart : Part (RehearsalServices B) (Depot (Faulty BucketOp StoreError B)) :=
  exchangePart.comp Exchange.insidePart

/-- The bucket store in the depot, with the supply of names. -/
def bucketsPart : Part (RehearsalServices B) (Faulty BucketOp StoreError B × IdSource) :=
  depotPart.comp Depot.bucketsPart

/-- What the stages of a rehearsal are built with. -/
structure Fittings where
  policy : RetryPolicy
  indexing : IndexingConfig
  counter : BucketedCounter

/-- The stages that a rehearsal can have. -/
inductive StagePlan where
  | read (fromArchive : Bool)
  | validate
  | write (counted : Bool)
  | index
  | depublish
  | script (name : String) (rules : List Rule)

variable [BucketStore B]

/-- The stage of a plan. -/
def Fittings.stage (f : Fittings) : StagePlan → Stage (RehearsalServices B)
  | .read false => readStage (Exchange.contentStore exchangePart) f.policy
  | .read true => readStage (Exchange.archiveStore exchangePart) f.policy
  | .validate => validateStage (Exchange.validator exchangePart) f.policy
  | .write counted =>
      writeStage (Exchange.metadata exchangePart)
        (if counted then some (bucketIndex f.counter bucketsPart) else none) f.policy
  | .index => indexStage (Exchange.indexer exchangePart) f.indexing f.policy
  | .depublish => depublishStage (Exchange.depublisher exchangePart) f.policy
  | .script name rules => scriptedStage (exchangePart.comp Exchange.appliedPart) name rules

end Rehearsal

end Conveyor
