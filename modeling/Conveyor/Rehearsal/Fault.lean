import Conveyor.Buckets.Basic
import Conveyor.Queue.Basic
import Conveyor.Tracker.Notification
import Conveyor.Tracker.Store

/-!
# Faults on demand

To rehearse what happens when a store fails, its calls are made to fail as arranged: every kind of
call has a plan, each call takes one entry off its plan, and once the plan is used up calls go
through again.

* `Fault` — a call's failure, before the call has done anything or after it.
* `Faulty Op ε S` — a store of type `S` with a plan for each kind of call `Op`.
* `QueueOp`, `TaskOp`, `NoticeOp`, `BucketOp` — the kinds of calls of the four stores, and the
  stores with faults as stores of the same class.
-/

namespace Conveyor

/-- The failure of a call. -/
structure Fault (ε : Type) where
  error : ε
  /-- Whether the call takes effect before it fails. -/
  afterwards : Bool
deriving DecidableEq, Repr

variable {S Op ε α : Type}

/-- A call that fails as a fault says; an error of the call itself comes first. -/
def obey (fault : Option (Fault ε)) (call : Action S ε α) : Action S ε α :=
  match fault with
  | none => call
  | some ⟨error, false⟩ => .fail error
  | some ⟨error, true⟩ => do
      let _ ← call
      .fail error

/-- A store whose calls fail as planned. -/
structure Faulty (Op ε S : Type) where
  store : S
  /-- What becomes of the coming calls of each kind. -/
  plan : Op → List (Option (Fault ε))

namespace Faulty

def ofStore (store : S) : Faulty Op ε S := ⟨store, fun _ => []⟩

def storePart : Part (Faulty Op ε S) S := ⟨Faulty.store, fun s f => { f with store := s }⟩

variable [DecidableEq Op]

/-- The plans with the plan for one kind of call replaced. -/
def withPlan (op : Op) (plan : List (Option (Fault ε))) (f : Faulty Op ε S) : Faulty Op ε S :=
  { f with plan := fun other => if other = op then plan else f.plan other }

/-- Adds entries at the end of the plan for one kind of call. -/
def arrange (op : Op) (entries : List (Option (Fault ε))) (f : Faulty Op ε S) : Faulty Op ε S :=
  f.withPlan op (f.plan op ++ entries)

/-- A call of the store under the plan for its kind. -/
def call (op : Op) (action : Action S ε α) : Action (Faulty Op ε S) ε α := fun f =>
  match f.plan op with
  | [] => action.on storePart f
  | fault :: rest => (obey fault action).on storePart (f.withPlan op rest)

/-- Without a plan, a call is a call of the store. -/
theorem call_of_plan_eq_nil {op : Op} {f : Faulty Op ε S} (h : f.plan op = [])
    (action : Action S ε α) : call op action f = action.on storePart f := by
  simp [call, h]

end Faulty

/-- The kinds of calls of a queue. -/
inductive QueueOp where
  | publish | claim | ack | release | recover | outstanding
deriving DecidableEq, Repr

instance {Q : Type} [MessageQueue Q] : MessageQueue (Faulty QueueOp StoreError Q) where
  publish topic partition e := Faulty.call QueueOp.publish (MessageQueue.publish topic partition e)
  claim topic partition n := Faulty.call QueueOp.claim (MessageQueue.claim topic partition n)
  ack id := Faulty.call QueueOp.ack (MessageQueue.ack id)
  release id := Faulty.call QueueOp.release (MessageQueue.release id)
  recover topic := Faulty.call QueueOp.recover (MessageQueue.recover topic)
  outstanding topic := Faulty.call QueueOp.outstanding (MessageQueue.outstanding topic)
  backlog f :=
    MessageQueue.backlog f.store + (f.plan QueueOp.publish).length + (f.plan QueueOp.ack).length

/-- The kinds of calls of a task store. -/
inductive TaskOp where
  | insert | upsert | find | list | increment | setExpected | transition | recordFatal | complete
deriving DecidableEq, Repr

instance {T : Type} [TaskStore T] : TaskStore (Faulty TaskOp StoreError T) where
  insert t := Faulty.call TaskOp.insert (TaskStore.insert t)
  upsert t := Faulty.call TaskOp.upsert (TaskStore.upsert t)
  find id := Faulty.call TaskOp.find (TaskStore.find id)
  list states := Faulty.call TaskOp.list (TaskStore.list states)
  increment id counter := Faulty.call TaskOp.increment (TaskStore.increment id counter)
  setExpected id n := Faulty.call TaskOp.setExpected (TaskStore.setExpected id n)
  transition now id sources target description :=
    Faulty.call TaskOp.transition (TaskStore.transition now id sources target description)
  recordFatal id reason := Faulty.call TaskOp.recordFatal (TaskStore.recordFatal id reason)
  complete now id := Faulty.call TaskOp.complete (TaskStore.complete now id)

/-- The kind of call of a notification sink that can be made to fail. -/
inductive NoticeOp where
  | notify
deriving DecidableEq, Repr

instance {N : Type} [NotificationSink N] : NotificationSink (Faulty NoticeOp StoreError N) where
  notify n := Faulty.call NoticeOp.notify (NotificationSink.notify n)
  listOf id := (NotificationSink.listOf id).on Faulty.storePart

/-- The kinds of calls of a bucket store. -/
inductive BucketOp where
  | current | allocate | increment | bucketsOf
deriving DecidableEq, Repr

/-- A bucket store with faults and the supply of names, as a store with both and faults. -/
def besideIds {B : Type} : Part (Faulty BucketOp StoreError B × IdSource)
    (Faulty BucketOp StoreError (B × IdSource)) where
  get s := ⟨(s.1.store, s.2), s.1.plan⟩
  set f _ := (⟨f.store.1, f.plan⟩, f.store.2)

instance {B : Type} [BucketStore B] : BucketStore (Faulty BucketOp StoreError B) where
  current object := Faulty.call BucketOp.current (BucketStore.current object)
  allocate object :=
    (Faulty.call BucketOp.allocate (BucketStore.allocate object)).on besideIds
  increment object bucket rows :=
    Faulty.call BucketOp.increment (BucketStore.increment object bucket rows)
  bucketsOf object := Faulty.call BucketOp.bucketsOf (BucketStore.bucketsOf object)

end Conveyor
