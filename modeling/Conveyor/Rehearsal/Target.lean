import Conveyor.Rehearsal.Journal
import Conveyor.Rehearsal.Plant

/-!
# Targets of faults

* `FaultTarget` — a kind of call of a plant that can be made to fail, and `FaultTarget.ofName?`,
  the kind of a name.
* `RehearsalPlant.arrange`, `arrangeService` — arranging faults for the coming calls of a kind.
-/

namespace Conveyor

def QueueOp.name : QueueOp → String
  | publish => "queue.publish"
  | claim => "queue.claim"
  | ack => "queue.ack"
  | release => "queue.release"
  | recover => "queue.recover"
  | outstanding => "queue.outstanding"

def TaskOp.name : TaskOp → String
  | insert => "store.insert"
  | upsert => "store.upsert"
  | find => "store.find"
  | list => "store.list"
  | increment => "store.increment"
  | setExpected => "store.set_expected"
  | transition => "store.transition"
  | recordFatal => "store.record_fatal"
  | complete => "store.complete"

def NoticeOp.name : NoticeOp → String
  | notify => "notify"

def BucketOp.name : BucketOp → String
  | current => "bucket.current"
  | allocate => "bucket.allocate"
  | increment => "bucket.increment"
  | bucketsOf => "bucket.buckets"

/-- A kind of call of a store. -/
inductive StoreTarget where
  | queue (op : QueueOp)
  | tasks (op : TaskOp)
  | notices (op : NoticeOp)
  | buckets (op : BucketOp)
deriving DecidableEq, Repr

namespace StoreTarget

def all : List StoreTarget :=
  [QueueOp.publish, .claim, .ack, .release, .recover, .outstanding].map queue ++
    [TaskOp.insert, .upsert, .find, .list, .increment, .setExpected, .transition, .recordFatal,
      .complete].map tasks ++
    [notices .notify] ++
    [BucketOp.current, .allocate, .increment, .bucketsOf].map buckets

def name : StoreTarget → String
  | queue op => op.name
  | tasks op => op.name
  | notices op => op.name
  | buckets op => op.name

end StoreTarget

/-- A kind of call that can be made to fail. -/
inductive FaultTarget where
  | store (target : StoreTarget)
  | service (op : ServiceOp)
deriving DecidableEq, Repr

def FaultTarget.ofName? (name : String) : Option FaultTarget :=
  (StoreTarget.all.find? (·.name = name)).map store <|>
    (ServiceOp.all.find? (·.name = name)).map service

namespace RehearsalPlant

variable {Q T N B : Type}

/-- Arranges faults for the coming calls of a store. -/
def arrange (target : StoreTarget) (faults : List (Option (Fault StoreError)))
    (p : RehearsalPlant Q T N B) : RehearsalPlant Q T N B :=
  match target with
  | .queue op => { p with queue := p.queue.arrange op faults }
  | .tasks op => { p with tracker := { p.tracker with tasks := p.tracker.tasks.arrange op faults } }
  | .notices op =>
      { p with tracker := { p.tracker with notices := p.tracker.notices.arrange op faults } }
  | .buckets op =>
      let (buckets, ids) := Rehearsal.bucketsPart.get p.services
      { p with services := Rehearsal.bucketsPart.set (buckets.arrange op faults, ids) p.services }

/-- Arranges faults for the coming calls of a service. -/
def arrangeService (op : ServiceOp) (faults : List (Option (Fault StepError)))
    (p : RehearsalPlant Q T N B) : RehearsalPlant Q T N B :=
  let part := Rehearsal.exchangePart.comp Exchange.depotPart
  { p with services := part.set ((part.get p.services).arrange op faults) p.services }

end RehearsalPlant

end Conveyor
