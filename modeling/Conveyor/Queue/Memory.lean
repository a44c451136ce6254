import Conveyor.Queue.Basic

/-!
# The queue in memory

Unacknowledged messages in the order of their numbers, which are all different.

* `StoredMessage` — a message, pending or in flight.
* `MemoryQueue` — the queue; `MemoryQueue.rewritten` changes messages under their numbers.
-/

namespace Conveyor

/-- An unacknowledged message. -/
structure StoredMessage where
  id : MessageId
  topic : String
  partition : Nat
  envelope : Envelope
  inFlight : Bool
  attempts : Attempts
deriving DecidableEq

namespace StoredMessage

def isPendingOn (topic : String) (partition : Nat) (m : StoredMessage) : Bool :=
  !m.inFlight && m.partition = partition && m.topic = topic

def launched (m : StoredMessage) : StoredMessage :=
  { m with inFlight := true, attempts := m.attempts + 1 }

def landed (m : StoredMessage) : StoredMessage := { m with inFlight := false }

def delivery (m : StoredMessage) : Delivery :=
  ⟨m.id, m.topic, m.partition, m.envelope, m.attempts⟩

end StoredMessage

/-- A queue in memory. -/
structure MemoryQueue where
  /-- How many numbers have been given. -/
  issued : Nat
  /-- The unacknowledged messages, the oldest first. -/
  messages : List StoredMessage
  numbered : (messages.map (·.id.value)).Pairwise (· < ·)
  /-- Every message bears a number that was given. -/
  given : ∀ n ∈ messages.map (·.id.value), n ≤ (issued : Int)
deriving DecidableEq

namespace MemoryQueue

def empty : MemoryQueue := ⟨0, [], .nil, by simp⟩

/-- The queue with other messages under the same numbers. -/
def rewritten (q : MemoryQueue) (messages : List StoredMessage)
    (same : messages.map (·.id.value) = q.messages.map (·.id.value)) : MemoryQueue :=
  ⟨q.issued, messages, same ▸ q.numbered, same ▸ q.given⟩

def publish (topic : String) (partition : Nat) (e : Envelope) (q : MemoryQueue) :
    MessageId × MemoryQueue :=
  (⟨q.issued + 1⟩,
    { issued := q.issued + 1
      messages := q.messages ++ [⟨⟨q.issued + 1⟩, topic, partition, e, false, 0⟩]
      numbered := by
        rw [List.map_append]
        refine List.pairwise_append.2 ⟨q.numbered, by simp, fun n mem k last => ?_⟩
        have := q.given n mem
        simp only [List.map_cons, List.map_nil, List.mem_singleton] at last
        omega
      given := by
        intro n mem
        rw [List.map_append, List.mem_append] at mem
        rcases mem with mem | mem
        · have := q.given n mem
          omega
        · simp only [List.map_cons, List.map_nil, List.mem_singleton] at mem
          omega })

/-- The queue with the oldest messages of a partition in flight, and these messages. -/
def claim (topic : String) (partition limit : Nat) (q : MemoryQueue) :
    List Delivery × MemoryQueue :=
  let wanted := StoredMessage.isPendingOn topic partition
  let split := claimFirst wanted StoredMessage.launched limit q.messages
  (split.1.map StoredMessage.delivery,
    q.rewritten split.2
      (map_claimFirst_snd wanted StoredMessage.launched _ (fun _ => rfl) limit q.messages))

def ack (id : MessageId) (q : MemoryQueue) : MemoryQueue where
  issued := q.issued
  messages := q.messages.filter fun m => m.id ≠ id
  numbered := q.numbered.sublist (List.filter_sublist.map _)
  given n mem := q.given n ((List.filter_sublist.map _).subset mem)

def release (id : MessageId) (q : MemoryQueue) : MemoryQueue :=
  q.rewritten (q.messages.map fun m => if m.id = id then m.landed else m) (by
    rw [List.map_map]
    refine List.map_congr_left fun m _ => ?_
    show (if m.id = id then m.landed else m).id.value = m.id.value
    split <;> rfl)

/-- The queue with all messages of a topic pending, and how many were not. -/
def recover (topic : String) (q : MemoryQueue) : Nat × MemoryQueue :=
  (q.messages.countP fun m => m.inFlight && m.topic = topic,
    q.rewritten (q.messages.map fun m => if m.topic = topic then m.landed else m) (by
      rw [List.map_map]
      refine List.map_congr_left fun m _ => ?_
      show (if m.topic = topic then m.landed else m).id.value = m.id.value
      split <;> rfl))

def outstanding (topic : String) (q : MemoryQueue) : Nat :=
  q.messages.countP fun m => m.topic = topic

instance : MessageQueue MemoryQueue where
  publish topic partition e := .modifyGet (publish topic partition e)
  claim topic partition limit := .modifyGet (claim topic partition limit)
  ack id := .modify (ack id)
  release id := .modify (release id)
  recover topic := .modifyGet (recover topic)
  outstanding topic := .gets (outstanding topic)
  backlog q := q.messages.length

/-! ## The messages after an operation -/

@[simp] theorem messages_publish (topic : String) (partition : Nat) (e : Envelope)
    (q : MemoryQueue) :
    (q.publish topic partition e).2.messages
      = q.messages ++ [⟨⟨q.issued + 1⟩, topic, partition, e, false, 0⟩] := rfl

@[simp] theorem issued_publish (topic : String) (partition : Nat) (e : Envelope)
    (q : MemoryQueue) : (q.publish topic partition e).2.issued = q.issued + 1 := rfl

@[simp] theorem messages_ack (id : MessageId) (q : MemoryQueue) :
    (q.ack id).messages = q.messages.filter fun m => m.id ≠ id := rfl

end MemoryQueue

end Conveyor
