import Conveyor.Proofs.Queue.Agreement

/-!
# Messages and their topics

A message is known by its number.  Queues of both kinds number messages in the order of their
publication and never give a number again, so a number says on which topic its message was
published; and a claim delivers no message of another topic, whatever was called before.

* `MemoryQueue.queueAfterAll_eq`, `publicationsOf_eq` — a queue in memory after calls, in terms of
  its history.
* `publicationsOf_inj` — a number belongs to one message.
* `SortsByTopic` — that a queue delivers messages on their own topics, and a message that is alone
  at once.
* **`sortsByTopic_memory`**, **`sortsByTopic_table`** — empty queues do so.
-/

namespace Conveyor

open MemoryQueue (Call Event)

/-! ## The numbers of messages -/

namespace MemoryQueue

theorem Call.issued_after (c : Call) (q : MemoryQueue) :
    (c.after q).issued = q.issued + (c.publication? q.issued).toList.length := by
  cases c <;> rfl

/-- Calls in their order are a history from its end. -/
theorem queueAfterAll_eq (calls : List Call) :
    queueAfterAll .empty calls = queueAfter calls.reverse := by
  induction calls using List.reverseRecOn with
  | nil => rfl
  | append_singleton calls c ih =>
    rw [queueAfterAll_append, c.on_eq, ih, List.reverse_concat]
    rfl

/-- So many numbers are given as messages are published. -/
theorem issued_queueAfterAll (calls : List Call) :
    (queueAfterAll empty calls).issued = (publicationsOf calls).length := by
  induction calls using List.reverseRecOn with
  | nil => rfl
  | append_singleton calls c ih =>
    rw [queueAfterAll_append, c.on_eq, c.issued_after, ih, publicationsOf_append,
      List.length_append]

theorem publicationsOf_eq (calls : List Call) :
    publicationsOf calls = publications (eventsOf calls.reverse) := by
  induction calls using List.reverseRecOn with
  | nil => rfl
  | append_singleton calls c ih =>
    rw [publicationsOf_append, List.reverse_concat, eventsOf, publications_cons,
      c.publication?_event, ← queueAfterAll_eq, issued_queueAfterAll, ih]

/-- The queue after calls is what their history says. -/
theorem recounts_queueAfterAll (calls : List Call) :
    Recounts (eventsOf calls.reverse) (queueAfterAll empty calls) :=
  queueAfterAll_eq calls ▸ recounts calls.reverse

end MemoryQueue

/-- **A number belongs to one message.** -/
theorem publicationsOf_inj {calls : List Call} {m n : Publication} (hm : m ∈ publicationsOf calls)
    (hn : n ∈ publicationsOf calls) (same : m.id = n.id) : m = n := by
  rw [MemoryQueue.publicationsOf_eq] at hm hn
  exact (MemoryQueue.recounts_queueAfterAll calls).eq_of_id_eq hm hn same

/-! ## What claims deliver -/

theorem claimFirst_singleton {α : Type} {wanted : α → Bool} {change : α → α} {a : α} {limit : Nat}
    (positive : 0 < limit) (waits : wanted a = true) :
    claimFirst wanted change limit [a] = ([change a], [change a]) := by
  obtain ⟨limit, rfl⟩ := Nat.exists_eq_add_of_lt positive
  exact claimFirst_of_wanted waits _ []

/-- After whatever calls, a claim delivers no message that was published on another topic; and a
message that is alone in the queue is delivered to whoever claims on its topic and partition. -/
structure SortsByTopic {Q : Type} [MessageQueue Q] (start : Q) : Prop where
  own : ∀ (calls : List Call) (topic : String) (partition limit : Nat) (batch : List Delivery),
    (MessageQueue.claim topic partition limit (queueAfterAll start calls)).1 = .ok batch →
      ∀ d ∈ batch, ∀ m ∈ publicationsOf calls, d.id = m.id → m.topic = topic
  alone : ∀ (topic : String) (partition limit : Nat) (e : Envelope), 0 < limit → e.taskId.Fits →
    (MessageQueue.claim topic partition limit
      (queueAfterAll start [.publish topic partition e])).1 = .ok [⟨⟨1⟩, topic, partition, e, 1⟩]

/-- **A queue in memory** delivers messages on their own topics. -/
theorem sortsByTopic_memory : SortsByTopic MemoryQueue.empty where
  own := by
    intro calls topic partition limit batch claimed d delivered m published same
    cases claimed
    obtain ⟨n, there, -, took, rfl⟩ :=
      (MemoryQueue.recounts_queueAfterAll calls).of_delivery delivered
    rw [← MemoryQueue.publicationsOf_eq] at there
    obtain rfl : n = m := publicationsOf_inj there published same
    exact (MemoryQueue.pending_of_taken took).2.1
  alone := by
    intro topic partition limit e positive _
    let message : StoredMessage := ⟨⟨1⟩, topic, partition, e, false, 0⟩
    have waits : message.isPendingOn topic partition = true := by
      simp [message, StoredMessage.isPendingOn]
    refine congrArg Except.ok ?_
    show (claimFirst _ _ limit [message]).1.map StoredMessage.delivery = _
    rw [claimFirst_singleton positive waits]
    rfl

theorem MessageRow.delivery_eq_ok {row : MessageRow} {d : Delivery} (h : row.delivery = .ok d) :
    row.id = d.id := by
  unfold delivery at h
  split at h
  · cases h
  · cases h
    rfl

/-- Every message of a batch that is read from rows is read from one of them. -/
theorem exists_row_of_mapM {rows : List MessageRow} {batch : List Delivery}
    (h : rows.mapM MessageRow.delivery = .ok batch) {d : Delivery} (mem : d ∈ batch) :
    ∃ row ∈ rows, row.id = d.id := by
  induction rows generalizing batch with
  | nil =>
    cases h
    cases mem
  | cons row rows ih =>
    rw [List.mapM_cons] at h
    cases read : row.delivery with
    | error =>
      rw [read] at h
      cases h
    | ok first =>
      cases later : rows.mapM MessageRow.delivery with
      | error =>
        rw [read, later] at h
        cases h
      | ok rest =>
        rw [read, later] at h
        cases h
        rcases List.mem_cons.1 mem with rfl | mem
        · exact ⟨row, List.mem_cons_self, MessageRow.delivery_eq_ok read⟩
        · obtain ⟨row', there, same⟩ := ih later mem
          exact ⟨row', List.mem_cons_of_mem _ there, same⟩

/-- **A queue in a table** delivers messages on their own topics. -/
theorem sortsByTopic_table : SortsByTopic (Table.empty : TableQueue) where
  own := by
    intro calls topic partition limit batch claimed d delivered m published same
    obtain ⟨opened, sheets⟩ := TableQueue.sheets_after calls
    change (TableQueue.claim topic partition limit _).1 = _ at claimed
    rw [TableQueue.claim_of_open opened, claimFirst_fst] at claimed
    obtain ⟨launched, took, number⟩ := exists_row_of_mapM claimed delivered
    obtain ⟨row, waits, rfl⟩ := List.mem_map.1 took
    obtain ⟨there, wanted⟩ := List.mem_filter.1 (List.mem_of_mem_take waits)
    have listed := List.mem_map_of_mem (f := MessageRow.sheet) there
    rw [sheets] at listed
    obtain ⟨n, published', sheet⟩ := List.mem_map.1 listed
    obtain ⟨id, topic', -, -⟩ := Sheet.mk.inj sheet
    obtain rfl : n = m := publicationsOf_inj published' published (id.trans (number.trans same))
    simp only [MessageRow.isPendingOn, Bool.and_eq_true, decide_eq_true_eq] at wanted
    exact topic'.trans wanted.1.1
  alone := by
    intro topic partition limit e positive fits
    let row : MessageRow :=
      ⟨⟨1⟩, topic, partition, Envelope.codec.encode e, MessageRow.pending, 0⟩
    let queue : TableQueue := queueAfterAll Table.empty [.publish topic partition e]
    have rows : queue.rows = [row] := rfl
    have waits : row.isPendingOn topic partition = true := by
      simp [row, MessageRow.isPendingOn]
    have allowed : 0 < TableQueue.allowed limit [row] := by
      rw [TableQueue.allowed]
      split
      · exact positive
      · exact Nat.one_pos
    have read : row.launched.delivery = .ok ⟨⟨1⟩, topic, partition, e, 1⟩ :=
      MessageRow.delivery_of_sheet (m := ⟨⟨1⟩, topic, partition, e⟩) rfl fits
    show (TableQueue.claim topic partition limit queue).1 = _
    rw [TableQueue.claim_of_open rfl, rows, claimFirst_singleton allowed waits, List.mapM_cons,
      read]
    rfl

end Conveyor
