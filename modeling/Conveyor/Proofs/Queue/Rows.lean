import Conveyor.Proofs.Envelope.Wire
import Conveyor.Proofs.Queue.History
import Conveyor.Queue.Table
import Mathlib.Data.List.Induction

/-!
# What the rows of a queue say

Calls on a queue in a table change how far a message has come and how often it was tried, but never
what its row says of the message itself.  So the rows are at any time the messages that were
published, in their order, with their envelopes as texts, which are read back as they were written.

* `MemoryQueue.Call.on` and `queueAfterAll` — calls on any queue, and the queue after some.
* `MessageRow.sheet` — what stays of a row; `Publication.sheet` is the same of a message.
* **`TableQueue.sheets_on`** — a publication adds a sheet, all other calls keep them.
* **`TableQueue.sheets_after`** — the sheets of a queue are those of its publications.
* `MessageRow.delivery_of_sheet` — the row of a message is delivered as the message.
-/

namespace Conveyor

/-! ## Calls on any queue -/

namespace MemoryQueue.Call

/-- A call on a queue of any kind. -/
def on {Q : Type} [MessageQueue Q] : Call → Action Q StoreError Event
  | publish topic partition e => do
      let id ← MessageQueue.publish topic partition e
      pure (.published ⟨id, topic, partition, e⟩)
  | claim topic partition limit => do
      let batch ← MessageQueue.claim topic partition limit
      pure (.claimed topic partition limit batch)
  | ack id => do
      MessageQueue.ack id
      pure (.acked id)
  | release id => do
      MessageQueue.release id
      pure (.released id)
  | recover topic => do
      let count ← MessageQueue.recover topic
      pure (.recovered topic count)
  | outstanding topic => do
      let count ← MessageQueue.outstanding topic
      pure (.counted topic count)

/-- Envelopes are published for tasks with numbers of 64 bits only. -/
def Fits : Call → Prop
  | publish _ _ e => e.taskId.Fits
  | _ => True

@[simp] theorem fits_publish {topic : String} {partition : Nat} {e : Envelope} :
    (publish topic partition e).Fits ↔ e.taskId.Fits := .rfl

/-- The message that a call publishes, numbered behind so many others. -/
def publication? (earlier : Nat) : Call → Option Publication
  | publish topic partition e => some ⟨⟨earlier + 1⟩, topic, partition, e⟩
  | _ => none

theorem publication?_event (c : Call) (q : MemoryQueue) :
    (c.event q).publication? = c.publication? q.issued := by
  cases c <;> rfl

end MemoryQueue.Call

open MemoryQueue (Call Event)

/-- A queue after some calls, whether or not they failed. -/
def queueAfterAll {Q : Type} [MessageQueue Q] (q : Q) (calls : List Call) : Q :=
  calls.foldl (fun q c => (c.on q).2) q

theorem queueAfterAll_append {Q : Type} [MessageQueue Q] (q : Q) (calls : List Call) (c : Call) :
    queueAfterAll q (calls ++ [c]) = (c.on (queueAfterAll q calls)).2 :=
  List.foldl_append

/-- The messages that calls publish, in their order. -/
def publicationsOf (calls : List Call) : List Publication :=
  calls.foldl (fun ms c => ms ++ (c.publication? ms.length).toList) []

theorem publicationsOf_append (calls : List Call) (c : Call) :
    publicationsOf (calls ++ [c])
      = publicationsOf calls ++ (c.publication? (publicationsOf calls).length).toList := by
  rw [publicationsOf, List.foldl_append]
  rfl

/-! ## Sheets -/

/-- What a row says of its message, however far that has come. -/
structure Sheet where
  id : MessageId
  topic : String
  partition : Nat
  envelope : String

def MessageRow.sheet (row : MessageRow) : Sheet :=
  ⟨row.id, row.topic, row.partition, row.envelope⟩

def Publication.sheet (m : Publication) : Sheet :=
  ⟨m.id, m.topic, m.partition, Envelope.codec.encode m.envelope⟩

/-- **The row of a message** is delivered as the message. -/
theorem MessageRow.delivery_of_sheet {row : MessageRow} {m : Publication}
    (same : row.sheet = m.sheet) (fits : m.envelope.taskId.Fits) :
    row.delivery = .ok ⟨m.id, m.topic, m.partition, m.envelope, Fin.ofNat _ row.attempts⟩ := by
  obtain ⟨id, topic, partition, text⟩ := Sheet.mk.inj same
  rw [delivery, id, topic, partition, text, (Envelope.codec_keeps fits).decode]

namespace TableQueue

open MessageRow (pending inFlight acked)

variable {t : TableQueue}

/-! ## Calls while the database is open -/

section

variable (h : t.closed = false)

include h

theorem publish_of_open (topic : String) (partition : Nat) (e : Envelope) :
    publish topic partition e t = (.ok ⟨t.rows.length + 1⟩, { t with rows := t.rows ++
      [⟨⟨t.rows.length + 1⟩, topic, partition, Envelope.codec.encode e, pending, 0⟩] }) :=
  Table.statement_of_open h _

/-- The rows that a claim takes and those that it leaves behind. -/
theorem claim_of_open (topic : String) (partition limit : Nat) :
    claim topic partition limit t
      = ((claimFirst (MessageRow.isPendingOn topic partition) MessageRow.launched
            (allowed limit t.rows) t.rows).1.mapM MessageRow.delivery,
          { t with rows := (claimFirst (MessageRow.isPendingOn topic partition) MessageRow.launched
            (allowed limit t.rows) t.rows).2 }) :=
  Action.bind_of_ok (Table.statement_of_open h _)

theorem ack_of_open (id : MessageId) :
    ack id t = (.ok (), { t with rows := t.rows.map fun row =>
      if row.id = id then { row with status := acked } else row }) := by
  refine (Action.bind_of_ok (Table.statement_of_open h _)).trans ?_
  simp

theorem release_of_open (id : MessageId) :
    release id t = (.ok (), { t with rows := t.rows.map fun row =>
      if row.id = id ∧ row.status = inFlight then { row with status := pending } else row }) := by
  refine (Action.bind_of_ok (Table.statement_of_open h _)).trans ?_
  simp

theorem recover_of_open (topic : String) :
    recover topic t = (.ok (t.rows.countP fun row => row.status = inFlight && row.topic = topic),
      { t with rows := t.rows.map fun row =>
        if row.topic = topic ∧ row.status = inFlight then { row with status := pending }
        else row }) := by
  simp [recover, Table.revise, Table.statement_of_open h, and_comm]

theorem outstanding_of_open (topic : String) :
    outstanding topic t = (.ok (t.rows.countP fun row =>
      row.topic = topic && (row.status = pending || row.status = inFlight)), t) := by
  refine (Action.bind_of_ok (Table.statement_of_open h _)).trans ?_
  rw [List.countP_eq_length_filter]
  rfl

/-! ## Sheets stay -/

/-- **A publication adds a sheet**, and all other calls keep those that there are. -/
theorem sheets_on (c : Call) :
    (c.on t).2.closed = false ∧ (c.on t).2.rows.map MessageRow.sheet
      = t.rows.map MessageRow.sheet
        ++ ((c.publication? t.rows.length).map Publication.sheet).toList := by
  have marked : ∀ (p : MessageRow → Prop) [DecidablePred p] (status : String),
      (t.rows.map fun row => if p row then { row with status := status } else row).map
        MessageRow.sheet = t.rows.map MessageRow.sheet := by
    intro p _ status
    rw [List.map_map]
    refine List.map_congr_left fun row _ => ?_
    show (if p row then { row with status := status } else row).sheet = row.sheet
    split <;> rfl
  cases c with
  | publish topic partition e =>
    have run : (Call.publish topic partition e).on t = _ :=
      Action.bind_of_ok (publish_of_open h topic partition e)
    rw [run]
    exact ⟨h, List.map_append⟩
  | claim topic partition limit =>
    have state : ((Call.claim topic partition limit).on t).2 = _ :=
      (Action.snd_bind_pure _ _ t).trans (congrArg Prod.snd (claim_of_open h topic partition limit))
    rw [state]
    have kept := map_claimFirst_snd (MessageRow.isPendingOn topic partition) MessageRow.launched
      MessageRow.sheet (fun _ => rfl) (allowed limit t.rows) t.rows
    exact ⟨h, kept.trans (List.append_nil _).symm⟩
  | ack id =>
    have run : (Call.ack id).on t = _ := Action.bind_of_ok (ack_of_open h id)
    rw [run]
    exact ⟨h, (marked _ _).trans (List.append_nil _).symm⟩
  | release id =>
    have run : (Call.release id).on t = _ := Action.bind_of_ok (release_of_open h id)
    rw [run]
    exact ⟨h, (marked _ _).trans (List.append_nil _).symm⟩
  | recover topic =>
    have run : (Call.recover topic).on t = _ := Action.bind_of_ok (recover_of_open h topic)
    rw [run]
    exact ⟨h, (marked _ _).trans (List.append_nil _).symm⟩
  | outstanding topic =>
    have run : (Call.outstanding topic).on t = _ := Action.bind_of_ok (outstanding_of_open h topic)
    rw [run]
    exact ⟨h, (List.append_nil _).symm⟩

end

/-- **The rows of a queue** are the messages that were published, in their order. -/
theorem sheets_after (calls : List Call) :
    (queueAfterAll (Table.empty : TableQueue) calls).closed = false ∧
      (queueAfterAll (Table.empty : TableQueue) calls).rows.map MessageRow.sheet
        = (publicationsOf calls).map Publication.sheet := by
  induction calls using List.reverseRecOn with
  | nil => exact ⟨rfl, rfl⟩
  | append_singleton calls c ih =>
    obtain ⟨opened, sheets⟩ := ih
    have count : (queueAfterAll (Table.empty : TableQueue) calls).rows.length
        = (publicationsOf calls).length := by
      simpa using congrArg List.length sheets
    have step := sheets_on opened c
    rw [sheets, count] at step
    rw [queueAfterAll_append, publicationsOf_append, List.map_append, ← Option.toList_map]
    exact step

end TableQueue

end Conveyor
