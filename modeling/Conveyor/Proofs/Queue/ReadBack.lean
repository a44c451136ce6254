import Conveyor.Proofs.Queue.Agreement

/-!
# What is written is read back

A queue in a table keeps envelopes as texts.  Whatever it was asked before, a claim reads the texts
of the messages that wait and delivers these as they were published, the oldest first.  Which
messages wait is told by the calls and their answers alone: those that were published there and are
neither acknowledged nor in flight.

The table may be asked for more than its database can count, and then grants all that it has.  So
it is accompanied by a queue in memory that is asked for what the table grants.

* `MemoryQueue.waitingOn` — the messages that wait; `MemoryQueue.Recounts.publications_claim` — what
  a claim delivers of them.
* `TableQueue.Recounts` — a table is what has happened to it; `TableQueue.Recounts.claim` — what it
  delivers then; **`TableQueue.Recounts.call`** — it is so after every call.
* **`TableQueue.recounts`** — no call on a queue fails, and it is so after all of them.
* **`read_back_as_written`** — envelopes, tasks and messages are read back.
-/

namespace Conveyor

open MemoryQueue (Call Event publications)

namespace MemoryQueue

/-- The messages that wait on a partition, the oldest first, as events have it: they were published
there, and are neither acknowledged nor in flight. -/
def waitingOn (topic : String) (partition : Nat) (events : List Event) : List Publication :=
  (publications events).filter fun m =>
    (!acknowledged events m && !flying m events) && (m.topic = topic && m.partition = partition)

namespace Recounts

variable {events : List Event} {q : MemoryQueue} {topic : String} {partition : Nat}

/-- **A claim delivers** the first of the messages that wait, as they were published. -/
theorem publications_claim (h : Recounts events q) (topic : String) (partition limit : Nat) :
    (q.claim topic partition limit).1.map Delivery.publication
      = (waitingOn topic partition events).take limit := by
  have waiting : (q.messages.filter (StoredMessage.isPendingOn topic partition)).map
      StoredMessage.publication = waitingOn topic partition events := by
    rw [h.messages, standing, List.filter_map, List.map_map, List.filter_filter]
    refine (List.map_id'' (fun m => rfl) _).trans (List.filter_congr fun m _ => ?_)
    rw [Bool.eq_iff_iff]
    simp only [Function.comp, stored, StoredMessage.isPendingOn, Bool.and_eq_true]
    tauto
  rw [← waiting, batch_eq, List.map_map, taken, List.map_take]
  rfl

/-- How much a claim was asked for is no matter to the history, only what it delivered. -/
theorem of_limit {limit limit' : Nat} {batch : List Delivery}
    (h : Recounts (.claimed topic partition limit batch :: events) q) :
    Recounts (.claimed topic partition limit' batch :: events) q :=
  ⟨h.ordered, h.given, List.forall_mem_cons.2 (List.forall_mem_cons.1 h.delivered), h.messages⟩

end Recounts

end MemoryQueue

namespace TableQueue

/-- A table is what has happened to it: it agrees with a queue in memory that is. -/
def Recounts (events : List Event) (t : TableQueue) : Prop :=
  ∃ q, Agree t q ∧ MemoryQueue.Recounts events q

namespace Recounts

variable {events : List Event} {t : TableQueue}

/-- **A claim** delivers the first of the messages that wait, as many as are asked for or, if that
is more than the database can count, all of them. -/
theorem claim (h : Recounts events t) (topic : String) (partition limit : Nat) :
    ∃ batch t', TableQueue.claim topic partition limit t = (.ok batch, t') ∧
      Recounts (.claimed topic partition limit batch :: events) t' ∧
      batch.map Delivery.publication
        = (MemoryQueue.waitingOn topic partition events).take (allowed limit t.rows) := by
  obtain ⟨q, agree, recounts⟩ := h
  obtain ⟨t', claimed, agree'⟩ := agree.claim topic partition limit rfl
  exact ⟨_, t', claimed, ⟨_, agree', (recounts.claim topic partition _).of_limit⟩,
    recounts.publications_claim topic partition _⟩

/-- **No call fails**, and the table is what its history says after it. -/
theorem call (h : Recounts events t) {c : Call} (fits : c.Fits) :
    ∃ ev, (c.on t).1 = .ok ev ∧ ev.publication? = c.publication? t.rows.length ∧
      Recounts (ev :: events) (c.on t).2 := by
  cases c with
  | claim topic partition limit =>
    obtain ⟨batch, t', claimed, next, -⟩ := h.claim topic partition limit
    have run : (Call.claim topic partition limit).on t = _ := Action.bind_of_ok claimed
    rw [run]
    exact ⟨_, rfl, rfl, next⟩
  | _ =>
    obtain ⟨q, agree, recounts⟩ := h
    obtain ⟨answer, next⟩ := agree.call_of_not_claim fits nofun
    refine ⟨_, answer, ?_, _, next, recounts.call _⟩
    rw [agree.issued]
    exact Call.publication?_event _ q

end Recounts

/-- **A table is what its history says**, whatever was called: no call failed, and what was
published is what the calls published, in their order. -/
theorem recounts {calls : List Call} (fits : ∀ c ∈ calls, c.Fits) :
    ∃ events, answers (Table.empty : TableQueue) calls = events.reverse.map .ok ∧
      publications events = publicationsOf calls ∧
      Recounts events (queueAfterAll Table.empty calls) := by
  induction calls using List.reverseRecOn with
  | nil => exact ⟨[], rfl, rfl, .empty, ⟨rfl, rfl, .nil⟩, MemoryQueue.recounts []⟩
  | append_singleton calls c ih =>
    obtain ⟨events, answered, published, tells⟩ := ih fun c mem => fits c (by simp [mem])
    obtain ⟨ev, answer, publication, next⟩ := tells.call (fits c (by simp))
    refine ⟨ev :: events, ?_, ?_, ?_⟩
    · rw [answers_append, answered, answer, List.reverse_cons, List.map_append]
      rfl
    · have count := congrArg List.length (sheets_after calls).2
      rw [List.length_map, List.length_map] at count
      rw [MemoryQueue.publications_cons, published, publication, count, publicationsOf_append]
    · rw [queueAfterAll_append]
      exact next

end TableQueue

/-- **What is written is read back**: envelopes and tasks from their texts, and so a queue in a
table, whatever was called, delivers of the messages that wait on a partition the first ones as they
were published, as many as are asked for, or all if the database cannot count so far. -/
theorem read_back_as_written :
    (∀ e : Envelope, e.taskId.Fits → Envelope.codec.decode (Envelope.codec.encode e) = .ok e) ∧
      (∀ t : Task, t.id.Fits → Task.codec.decode (Task.codec.encode t) = .ok t) ∧
      ∀ calls : List Call, (∀ c ∈ calls, c.Fits) →
        ∃ events, answers (Table.empty : TableQueue) calls = events.reverse.map .ok ∧
          publications events = publicationsOf calls ∧
          ∀ (topic : String) (partition limit : Nat), ∃ batch,
            (TableQueue.claim topic partition limit (queueAfterAll Table.empty calls)).1
                = .ok batch ∧
              batch.map Delivery.publication
                = if (limit : Int) ≤ Text.maxSigned
                    then (MemoryQueue.waitingOn topic partition events).take limit
                    else MemoryQueue.waitingOn topic partition events := by
  refine ⟨fun e fits => (Envelope.codec_keeps fits).decode,
    fun t fits => (Task.codec_keeps fits).decode, fun calls fits => ?_⟩
  obtain ⟨events, answered, published, tells⟩ := TableQueue.recounts fits
  refine ⟨events, answered, published, fun topic partition limit => ?_⟩
  obtain ⟨batch, t', claimed, -, delivered⟩ := tells.claim topic partition limit
  refine ⟨batch, congrArg Prod.fst claimed, ?_⟩
  rw [delivered, TableQueue.allowed]
  split
  · rfl
  · -- there are no more messages that wait than rows
    have rows := congrArg List.length (TableQueue.sheets_after calls).2
    rw [List.length_map, List.length_map, ← published] at rows
    exact List.take_of_length_le (rows ▸ List.length_filter_le ..)

/-- A message is published and another acknowledged that there is not; then the first is claimed. -/
theorem read_back_oddEnvelope :
    Envelope.codec.decode (Envelope.codec.encode oddEnvelope) = .ok oddEnvelope ∧
      Task.codec.decode (Task.codec.encode (Task.new ⟨0⟩ "task" "topology"))
        = .ok (Task.new ⟨0⟩ "task" "topology") ∧
      ∃ batch, (TableQueue.claim "in" 0 1 (queueAfterAll Table.empty
          [.publish "in" 0 oddEnvelope, .ack ⟨7⟩])).1 = .ok batch ∧
        batch.map Delivery.publication = [⟨⟨1⟩, "in", 0, oddEnvelope⟩] := by
  obtain ⟨envelopes, tasks, delivers⟩ := read_back_as_written
  refine ⟨envelopes oddEnvelope (by decide), tasks _ (by decide), ?_⟩
  obtain ⟨events, answered, -, claims⟩ :=
    delivers [.publish "in" 0 oddEnvelope, .ack ⟨7⟩] (by simp [Call.Fits]; decide)
  have happened : events.reverse = [.published ⟨⟨1⟩, "in", 0, oddEnvelope⟩, .acked ⟨7⟩] :=
    List.map_injective_iff.2 (fun _ _ => Except.ok.inj) answered.symm
  obtain ⟨batch, claimed, delivered⟩ := claims "in" 0 1
  refine ⟨batch, claimed, delivered.trans ?_⟩
  rw [List.reverse_eq_iff.1 happened]
  rfl

end Conveyor
