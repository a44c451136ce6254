import Conveyor.Buckets.Table
import Conveyor.Queue.Table
import Conveyor.Rehearsal.Plant
import Conveyor.Tracker.Table

/-!
# Tampering with tables

A database may hold what nobody wrote through the stores, and it may be gone.  Both can be
rehearsed on a plant whose stores are tables.

* `TablePlant` — such a plant.
* `TablePlant.tamper` — overwriting the text in one column of a row.
* `TablePlant.shutDown` — shutting the database down.
-/

namespace Conveyor

/-- A plant whose stores are tables. -/
abbrev TablePlant : Type :=
  RehearsalPlant TableQueue TableTasks TableNotifications TableBuckets

/-- The row of a message with the text in a column overwritten; other columns hold nothing that is
ever read. -/
def MessageRow.overwrite (column text : String) (row : MessageRow) : MessageRow :=
  if column = "envelope" then { row with envelope := text }
  else if column = "status" then { row with status := text }
  else row

/-- The row of a task with the text in a column overwritten. -/
def TaskRow.overwrite (column text : String) (row : TaskRow) : TaskRow :=
  if column = "state" then { row with state := text }
  else if column = "sent_at" then { row with sentAt := text }
  else if column = "started_at" then { row with startedAt := some text }
  else if column = "finished_at" then { row with finishedAt := some text }
  else row

/-- The row of a notification with the text in a column overwritten. -/
def NotificationRow.overwrite (column text : String) (row : NotificationRow) : NotificationRow :=
  if column = "state" then { row with state := text }
  else if column = "created_at" then { row with createdAt := text }
  else row

/-- Changes the row of a number, counted from one, and answers how many there are. -/
def reviseNth {ρ : Type} (number : Int) (change : ρ → ρ) :
    Action (Table ρ) StoreError Nat :=
  Table.statement fun rows =>
    if 0 < number ∧ number ≤ rows.length then (1, rows.modify (number - 1).toNat change)
    else (0, rows)

namespace TablePlant

def noticesPart : Part TablePlant TableNotifications :=
  (Plant.trackerPart.comp Tracker.noticesPart).comp Faulty.storePart

def tasksPart : Part TablePlant TableTasks :=
  (Plant.trackerPart.comp Tracker.tasksPart).comp Faulty.storePart

def queuePart : Part TablePlant TableQueue := Plant.queuePart.comp Faulty.storePart

def bucketsPart : Part TablePlant TableBuckets :=
  ((Plant.servicesPart.comp Rehearsal.bucketsPart).comp Part.fst).comp Faulty.storePart

/-- Overwrites the text in a column of the row of a number, and answers how many there are: a
message or a task by its own number, a notification by its place. -/
def tamper (table column : String) (number : Int) (text : String) :
    Action TablePlant StoreError Nat :=
  if table = "messages" then
    Action.on queuePart (Table.revise (·.id.value = number) (MessageRow.overwrite column text))
  else if table = "task_info" then
    Action.on tasksPart (Table.revise (·.id.value = number) (TaskRow.overwrite column text))
  else
    Action.on noticesPart (reviseNth number (NotificationRow.overwrite column text))

/-- Shuts the database down. -/
def shutDown (p : TablePlant) : TablePlant :=
  let p := queuePart.set (queuePart.get p).shutDown p
  let p := tasksPart.set (tasksPart.get p).shutDown p
  let p := noticesPart.set (noticesPart.get p).shutDown p
  bucketsPart.set (bucketsPart.get p).shutDown p

end TablePlant

end Conveyor
