import Conveyor.Envelope.Codec
import Conveyor.Queue.Basic
import Conveyor.Table

/-!
# The queue in a table

Every message ever published has a row, which keeps the envelope as text and says how far the
message has come.  A claim marks its rows before it reads them back, so that rows whose text
cannot be read are in flight all the same.

* `MessageRow` — a row.
* `TableQueue` — the queue.
-/

namespace Conveyor

/-- A published message. -/
structure MessageRow where
  id : MessageId
  topic : String
  partition : Nat
  /-- The text of the envelope. -/
  envelope : String
  /-- How far the message has come. -/
  status : String
  /-- How many claims have marked the row.  The database counts further than a delivery tells. -/
  attempts : Nat
deriving DecidableEq

namespace MessageRow

def pending : String := "pending"

def inFlight : String := "in_flight"

def acked : String := "acked"

def isPendingOn (topic : String) (partition : Nat) (row : MessageRow) : Bool :=
  row.topic = topic && row.partition = partition && row.status = pending

def launched (row : MessageRow) : MessageRow :=
  { row with status := inFlight, attempts := row.attempts + 1 }

def delivery (row : MessageRow) : Except StoreError Delivery :=
  match Envelope.codec.decode row.envelope with
  | .error e => .error (.unreadable e.message)
  | .ok envelope => .ok ⟨row.id, row.topic, row.partition, envelope, Fin.ofNat _ row.attempts⟩

end MessageRow

abbrev TableQueue := Table MessageRow

namespace TableQueue

open MessageRow (pending inFlight acked)

def publish (topic : String) (partition : Nat) (e : Envelope) :
    Action TableQueue StoreError MessageId :=
  Table.statement fun rows =>
    let id : MessageId := ⟨rows.length + 1⟩
    (id, rows ++ [⟨id, topic, partition, Envelope.codec.encode e, pending, 0⟩])

/-- How many rows may be taken: to the database a limit is a signed number of 64 bits, and one
that is negative is none. -/
def allowed (limit : Nat) (rows : List MessageRow) : Nat :=
  if (limit : Int) ≤ Text.maxSigned then limit else rows.length

/-- Marks the oldest rows that wait on a partition and reads them back. -/
def claim (topic : String) (partition limit : Nat) :
    Action TableQueue StoreError (List Delivery) := do
  let marked ← Table.statement fun rows =>
    claimFirst (MessageRow.isPendingOn topic partition) MessageRow.launched (allowed limit rows) rows
  .ofExcept (marked.mapM MessageRow.delivery)

/-- Marks a message as dealt with, wherever it stands. -/
def ack (id : MessageId) : Action TableQueue StoreError Unit := do
  let _ ← Table.revise (fun row : MessageRow => row.id = id) fun row =>
    { row with status := acked }

/-- Marks a message as waiting if it is in flight. -/
def release (id : MessageId) : Action TableQueue StoreError Unit := do
  let _ ← Table.revise (fun row : MessageRow => row.id = id && row.status = inFlight) fun row =>
    { row with status := pending }

/-- Marks all messages of a topic that are in flight as waiting. -/
def recover (topic : String) : Action TableQueue StoreError Nat :=
  Table.revise (fun row : MessageRow => row.status = inFlight && row.topic = topic) fun row =>
    { row with status := pending }

def outstanding (topic : String) : Action TableQueue StoreError Nat := do
  let rows ← Table.select fun row : MessageRow =>
    row.topic = topic && (row.status = pending || row.status = inFlight)
  pure rows.length

instance : MessageQueue TableQueue where
  publish := publish
  claim := claim
  ack := ack
  release := release
  recover := recover
  outstanding := outstanding
  backlog t := t.rows.countP fun row => row.status ≠ acked

end TableQueue

end Conveyor
