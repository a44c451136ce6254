import Conveyor.Action
import Conveyor.Outcome
import Conveyor.StoreError
import Conveyor.Task.Info

/-!
# Notifications

Every record that fails or is removed is reported in a notification, in the order in which it
happened.

* `Notification` — the report; `Notification.ofError` and `Notification.ofDeleted` make one.
* `NotificationSink` — stores that notifications can be sent to.
-/

namespace Conveyor

/-- The end of a reported record. -/
inductive RecordState where
  | error
  | deleted
deriving DecidableEq, Repr

namespace RecordState

def name : RecordState → String
  | error => "ERROR"
  | deleted => "DELETED"

def unknownMessage (name : String) : String := "unknown record state: " ++ name

def ofName? (name : String) : Option RecordState :=
  if name = "ERROR" then some error else if name = "DELETED" then some deleted else none

@[simp] theorem ofName?_name (s : RecordState) : ofName? s.name = some s := by
  cases s <;> decide

end RecordState

/-- A report about one record. -/
structure Notification where
  taskId : TaskId
  resource : String
  state : RecordState
  info : String
  details : String
  createdAt : Timestamp
deriving DecidableEq

namespace Notification

def ofError (now : Timestamp) (e : RecordError) : Notification :=
  ⟨e.taskId, e.resource, .error, e.message, e.details, now⟩

def ofDeleted (now : Timestamp) (task : TaskId) (resource : String) : Notification :=
  ⟨task, resource, .deleted, "Record removed", "", now⟩

end Notification

/-- Stores of notifications. -/
class NotificationSink (N : Type) where
  notify : Notification → Action N StoreError Unit
  /-- The notifications of a task, in the order in which they were accepted. -/
  listOf : TaskId → Action N StoreError (List Notification)

end Conveyor
