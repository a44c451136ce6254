import Conveyor.Table
import Conveyor.Text.Quoted
import Conveyor.Time.Rfc3339
import Conveyor.Tracker.Notification
import Conveyor.Tracker.Store

/-!
# Task progress and notifications in tables

States and times are kept as text.  Changes work on that text as it stands; only who reads a whole
row learns that a text does not say a state or a time.

* `TaskRow`, `TableTasks` — a task store.
* `NotificationRow`, `TableNotifications` — a notification sink.
-/

namespace Conveyor

/-! ## Tasks -/

/-- The progress record of a task as a row. -/
structure TaskRow where
  id : TaskId
  topology : String
  state : String
  description : String
  owner : Option String
  expected : Int
  processed : Int
  errors : Int
  deleted : Int
  postProcessed : Int
  fatal : Option String
  sentAt : String
  startedAt : Option String
  finishedAt : Option String
deriving DecidableEq

namespace TaskRow

def ofInfo (t : TaskInfo) : TaskRow where
  id := t.id
  topology := t.topology
  state := t.state.name
  description := t.description
  owner := t.owner
  expected := t.expected
  processed := t.processed
  errors := t.errors
  deleted := t.deleted
  postProcessed := t.postProcessed
  fatal := t.fatal
  sentAt := t.sentAt.column
  startedAt := t.startedAt.map Timestamp.column
  finishedAt := t.finishedAt.map Timestamp.column

/-- The time that a text says. -/
def readTime (text : String) : Except StoreError Timestamp :=
  match Rfc3339.readStrict text with
  | .ok time => .ok time
  | .error e =>
      .error (.deserialization ("bad timestamp " ++ Text.quoted text ++ ": " ++ e.message))

/-- The state that a text says. -/
def readState (text : String) : Except StoreError TaskState :=
  match TaskState.ofName? text with
  | some state => .ok state
  | none => .error (.deserialization (TaskState.unknownMessage text))

def info (row : TaskRow) : Except StoreError TaskInfo := do
  let state ← readState row.state
  let sentAt ← readTime row.sentAt
  let startedAt ← row.startedAt.mapM readTime
  let finishedAt ← row.finishedAt.mapM readTime
  pure ⟨row.id, row.topology, state, row.description, row.owner, row.expected, row.processed,
    row.errors, row.deleted, row.postProcessed, row.fatal, sentAt, startedAt, finishedAt⟩

def isIn (states : List TaskState) (row : TaskRow) : Bool := row.state ∈ states.map TaskState.name

def bump (row : TaskRow) : Counter → TaskRow
  | .processed => { row with processed := row.processed + 1 }
  | .errors => { row with errors := row.errors + 1 }
  | .deleted => { row with deleted := row.deleted + 1 }
  | .postProcessed => { row with postProcessed := row.postProcessed + 1 }

def moved (now : Timestamp) (target : TaskState) (description : String) (row : TaskRow) : TaskRow :=
  { row with
    state := target.name
    description := description
    startedAt := if target = .processing then row.startedAt <|> some now.column else row.startedAt
    finishedAt := if target.isTerminal then some now.column else row.finishedAt }

/-- Whether the task is in progress and its records are through. -/
def isDue (row : TaskRow) : Bool :=
  row.state = TaskState.processing.name && 0 ≤ row.expected &&
    row.expected ≤ row.processed + row.errors + row.deleted + row.postProcessed

/-- The state in which the task ends. -/
def verdict (row : TaskRow) : TaskState := if row.fatal.isSome then .failed else .processed

def completed (now : Timestamp) (row : TaskRow) : TaskRow :=
  row.moved now row.verdict (row.fatal.getD processedDescription)

end TaskRow

/-- Task progress in a table. -/
abbrev TableTasks := Table TaskRow

namespace TableTasks

def insert (t : TaskInfo) : Action TableTasks StoreError Unit := do
  let taken ← Table.statement fun rows : List TaskRow =>
    if rows.any (·.id = t.id) then (true, rows)
    else (false, placeBy (·.id.value) (.ofInfo t) rows)
  if taken then .fail (takenError t.id) else pure ()

def upsert (t : TaskInfo) : Action TableTasks StoreError Unit :=
  Table.statement fun rows => ((), placeBy (·.id.value) (.ofInfo t) rows)

def find (id : TaskId) : Action TableTasks StoreError (Option TaskInfo) := do
  let rows ← Table.select fun row : TaskRow => row.id = id
  .ofExcept (rows.head?.mapM TaskRow.info)

/-- Reads the rows in some states; asked for no state, it does not look. -/
def list (states : List TaskState) : Action TableTasks StoreError (List TaskInfo) :=
  if states.isEmpty then pure []
  else do
    let rows ← Table.select (TaskRow.isIn states)
    .ofExcept (rows.mapM TaskRow.info)

/-- Moves a task between states; from no state there is nothing to look for. -/
def transition (now : Timestamp) (id : TaskId) (sources : List TaskState) (target : TaskState)
    (description : String) : Action TableTasks StoreError Bool :=
  if sources.isEmpty then pure false
  else do
    let changed ← Table.revise (fun row : TaskRow => row.id = id && row.isIn sources)
      (TaskRow.moved now target description)
    pure (0 < changed)

/-- Completes a task whose records are through. -/
def complete (now : Timestamp) (id : TaskId) : Action TableTasks StoreError (Option TaskState) :=
  Table.statement fun rows =>
    let isDue (row : TaskRow) : Bool := row.id = id && row.isDue
    ((rows.find? isDue).map TaskRow.verdict,
      rows.map fun row => if isDue row then row.completed now else row)

instance : TaskStore TableTasks where
  insert := insert
  upsert := upsert
  find := find
  list := list
  increment id counter := do
    let changed ← Table.revise (fun row : TaskRow => row.id = id && row.isIn TaskState.active)
      (·.bump counter)
    pure (0 < changed)
  setExpected id n := do
    let _ ← Table.revise (fun row : TaskRow => row.id = id) ({ · with expected := n })
  transition := transition
  recordFatal id reason := do
    let _ ← Table.revise (fun row : TaskRow => row.id = id && row.isIn TaskState.active)
      fun row => { row with fatal := row.fatal <|> some reason }
  complete := complete

end TableTasks

/-! ## Notifications -/

/-- A notification as a row. -/
structure NotificationRow where
  taskId : TaskId
  resource : String
  state : String
  info : String
  details : String
  createdAt : String
deriving DecidableEq

namespace NotificationRow

def ofNotification (n : Notification) : NotificationRow :=
  ⟨n.taskId, n.resource, n.state.name, n.info, n.details, n.createdAt.column⟩

def notification (row : NotificationRow) : Except StoreError Notification := do
  let createdAt ← match Rfc3339.readStrict row.createdAt with
    | .ok time => pure time
    | .error e => throw (.deserialization e.message)
  let state ← match RecordState.ofName? row.state with
    | some state => pure state
    | none => throw (.deserialization (RecordState.unknownMessage row.state))
  pure ⟨row.taskId, row.resource, state, row.info, row.details, createdAt⟩

end NotificationRow

/-- Notifications in a table. -/
abbrev TableNotifications := Table NotificationRow

instance : NotificationSink TableNotifications where
  notify n := Table.append (.ofNotification n)
  listOf id := do
    let rows ← Table.select fun row : NotificationRow => row.taskId = id
    .ofExcept (rows.mapM NotificationRow.notification)

end Conveyor
