import Conveyor.Tracker.Notification
import Conveyor.Tracker.Store

/-!
# The tracker

The tracker follows every task from its registration to its end.  The end of each record is
reported to it: a failed or removed record is first announced in a notification and then counted,
so that nothing is counted that was not announced; once the records of a task are through, the
report that brought the last one completes the task.

* `Tracker T N` — a task store and a notification sink.
* `Tracker.register`, `start`, `setExpected` — the beginning of a task.
* `Tracker.processed`, `failed`, `deleted`, `postProcessed`, `fatal` — reports; each answers the
  state in which it completed the task, if it did.
* `Tracker.dropTask`, `failTask` — the end of a task ahead of time.
-/

namespace Conveyor

/-- The progress of all tasks, and what is announced about their records. -/
structure Tracker (T N : Type) where
  tasks : T
  notices : N
deriving DecidableEq

namespace Tracker

variable {T N α : Type}

def tasksPart : Part (Tracker T N) T := ⟨Tracker.tasks, fun s t => { t with tasks := s }⟩

def noticesPart : Part (Tracker T N) N := ⟨Tracker.notices, fun s t => { t with notices := s }⟩

variable [TaskStore T] [NotificationSink N]

def onTasks (call : Action T StoreError α) : Action (Tracker T N) StoreError α := call.on tasksPart

def onNotices (call : Action N StoreError α) : Action (Tracker T N) StoreError α :=
  call.on noticesPart

/-! ## Looking -/

def find (id : TaskId) : Action (Tracker T N) StoreError (Option TaskInfo) :=
  onTasks (TaskStore.find id)

def list (states : List TaskState) : Action (Tracker T N) StoreError (List TaskInfo) :=
  onTasks (TaskStore.list states)

def isDropped (id : TaskId) : Action (Tracker T N) StoreError Bool := do
  let info ← find id
  pure (info.any fun t => t.state = .dropped)

def notificationsOf (id : TaskId) : Action (Tracker T N) StoreError (List Notification) :=
  onNotices (NotificationSink.listOf id)

/-! ## The beginning of a task -/

/-- Accepts a task; one of the same number stands in its way unless it is to be replaced. -/
def register (t : TaskInfo) (replace : Bool) : Action (Tracker T N) StoreError Unit :=
  onTasks (if replace then TaskStore.upsert t else TaskStore.insert t)

/-- Puts a task that waits in progress. -/
def start (now : Timestamp) (id : TaskId) : Action (Tracker T N) StoreError Bool :=
  onTasks (TaskStore.transition now id [.pending] .processing "The task is in progress")

/-- Completes a task whose records are through. -/
def evaluate (now : Timestamp) (id : TaskId) :
    Action (Tracker T N) StoreError (Option TaskState) :=
  onTasks (TaskStore.complete now id)

/-- Sets the expected number of records, which may complete the task. -/
def setExpected (now : Timestamp) (id : TaskId) (n : Int) : Action (Tracker T N) StoreError Unit :=
  do
    onTasks (TaskStore.setExpected id n)
    let _ ← evaluate now id

/-! ## The ends of records -/

/-- Counts a record of a task that is not done. -/
def bump (now : Timestamp) (id : TaskId) (counter : Counter) :
    Action (Tracker T N) StoreError (Option TaskState) := do
  if ← onTasks (TaskStore.increment id counter) then evaluate now id else pure none

/-- A record has come through. -/
def processed (now : Timestamp) (id : TaskId) :
    Action (Tracker T N) StoreError (Option TaskState) := bump now id .processed

/-- A record has failed. -/
def failed (now : Timestamp) (e : RecordError) :
    Action (Tracker T N) StoreError (Option TaskState) := do
  onNotices (NotificationSink.notify (.ofError now e))
  bump now e.taskId .errors

/-- A record was removed. -/
def deleted (now : Timestamp) (id : TaskId) (resource : String) :
    Action (Tracker T N) StoreError (Option TaskState) := do
  onNotices (NotificationSink.notify (.ofDeleted now id resource))
  bump now id .deleted

/-- A record was dealt with after its stages. -/
def postProcessed (now : Timestamp) (id : TaskId) :
    Action (Tracker T N) StoreError (Option TaskState) := bump now id .postProcessed

/-- A task cannot succeed any more; it fails once its records are through. -/
def fatal (now : Timestamp) (id : TaskId) (reason : String) :
    Action (Tracker T N) StoreError (Option TaskState) := do
  onTasks (TaskStore.recordFatal id reason)
  evaluate now id

/-! ## The end of a task ahead of time -/

def dropTask (now : Timestamp) (id : TaskId) (reason : String) :
    Action (Tracker T N) StoreError Bool :=
  onTasks (TaskStore.transition now id TaskState.active .dropped reason)

def failTask (now : Timestamp) (id : TaskId) (reason : String) :
    Action (Tracker T N) StoreError Bool :=
  onTasks (TaskStore.transition now id TaskState.active .failed reason)

end Tracker

end Conveyor
