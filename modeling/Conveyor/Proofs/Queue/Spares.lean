import Conveyor.Proofs.Queue.History

/-!
# Messages that others leave alone

Whatever is done about one message, and whatever is published, all other messages stay where they
are, and none that is gone comes back.

* `MemoryQueue.Spares` — that a queue has changed in some messages at most, and has grown.
-/

namespace Conveyor

namespace MemoryQueue

variable {q q' q'' : MemoryQueue} {touched : List MessageId} {m : StoredMessage}

/-- The numbers of the messages that stand in a queue. -/
def ids (q : MemoryQueue) : List MessageId := q.messages.map StoredMessage.id

/-- A queue has changed in the messages of some numbers at most, and others were published. -/
structure Spares (touched : List MessageId) (q q' : MemoryQueue) : Prop where
  stays : ∀ m ∈ q.messages, m.id ∉ touched → m ∈ q'.messages
  known : ∀ m ∈ q'.messages, m.id ∉ touched → m ∈ q.messages ∨ q.issued < m.id.value
  issued : q.issued ≤ q'.issued

namespace Spares

theorem refl (touched : List MessageId) (q : MemoryQueue) : Spares touched q q :=
  ⟨fun _ mem _ => mem, fun _ mem _ => .inl mem, Nat.le_refl _⟩

theorem weaken {touched' : List MessageId} (h : Spares touched q q') (more : touched ⊆ touched') :
    Spares touched' q q' :=
  ⟨fun m mem apart => h.stays m mem fun there => apart (more there),
    fun m mem apart => h.known m mem fun there => apart (more there), h.issued⟩

theorem trans (h : Spares touched q q') (h' : Spares touched q' q'') : Spares touched q q'' where
  stays m mem apart := h'.stays m (h.stays m mem apart) apart
  known m mem apart := by
    have issued := h.issued
    rcases h'.known m mem apart with between | fresh
    · exact h.known m between apart
    · right
      omega
  issued := Nat.le_trans h.issued h'.issued

theorem publish (touched : List MessageId) (topic : String) (partition : Nat) (e : Envelope)
    (q : MemoryQueue) : Spares touched q (q.publish topic partition e).2 where
  stays _ mem _ := mem_publish topic partition e mem
  known m mem _ := by
    rw [messages_publish, List.mem_append, List.mem_singleton] at mem
    rcases mem with mem | rfl
    · exact .inl mem
    · exact .inr (Int.lt_succ _)
  issued := Nat.le_succ _

theorem ack (id : MessageId) (q : MemoryQueue) : Spares [id] q (q.ack id) where
  stays m mem apart := List.mem_filter.2 ⟨mem, by simpa using apart⟩
  known m mem _ := .inl (List.mem_of_mem_filter mem)
  issued := Nat.le_refl _

theorem release (id : MessageId) (q : MemoryQueue) : Spares [id] q (q.release id) where
  stays m mem apart := by
    have other : m.id ≠ id := by simpa using apart
    exact List.mem_map.2 ⟨m, mem, if_neg other⟩
  known m mem apart := by
    obtain ⟨n, there, rfl⟩ := List.mem_map.1 mem
    by_cases same : n.id = id
    · rw [if_pos same] at apart
      exact absurd (List.mem_singleton.2 same) apart
    · rw [if_neg same]
      exact .inl there
  issued := Nat.le_refl _

/-- A message of another number stays or stays away. -/
theorem mem_ids_iff (h : Spares touched q q') {id : MessageId} (apart : id ∉ touched)
    (given : id.value ≤ q.issued) : id ∈ q'.ids ↔ id ∈ q.ids := by
  constructor
  · intro there
    obtain ⟨m, mem, rfl⟩ := List.mem_map.1 there
    rcases h.known m mem apart with before | fresh
    · exact List.mem_map_of_mem before
    · omega
  · intro here
    obtain ⟨m, mem, rfl⟩ := List.mem_map.1 here
    exact List.mem_map_of_mem (h.stays m mem apart)

theorem mem_standingOf (h : Spares touched q q') {m : Publication} (mem : m ∈ q.standingOf)
    (apart : m.id ∉ touched) : m ∈ q'.standingOf := by
  obtain ⟨s, there, rfl⟩ := List.mem_map.1 mem
  exact List.mem_map_of_mem (h.stays s there apart)

theorem holds {d : Delivery} (h : Spares touched q q') (held : Holds q d) (apart : d.id ∉ touched) :
    Holds q' d := by
  obtain ⟨m, mem, flying, rfl⟩ := held
  exact ⟨m, h.stays m mem apart, flying, rfl⟩

end Spares

/-! ## What calls make of a message -/

theorem mem_release (h : m ∈ q.messages) : m.landed ∈ (q.release m.id).messages :=
  List.mem_map.2 ⟨m, h, if_pos rfl⟩

theorem mem_recover (h : m ∈ q.messages) : m.landed ∈ (q.recover m.topic).2.messages :=
  List.mem_map.2 ⟨m, h, if_pos rfl⟩

theorem not_mem_ids_ack (id : MessageId) (q : MemoryQueue) : id ∉ (q.ack id).ids := by
  intro there
  obtain ⟨m, mem, same⟩ := List.mem_map.1 there
  simpa [same] using (List.mem_filter.1 mem).2

end MemoryQueue

theorem Holds.le_issued {q : MemoryQueue} {d : Delivery} (h : Holds q d) :
    d.id.value ≤ q.issued := by
  obtain ⟨m, mem, -, rfl⟩ := h
  exact q.given _ (List.mem_map_of_mem mem)

end Conveyor
