import Conveyor.Queue.Memory
import Mathlib.Data.List.Basic
import Mathlib.Data.List.Nodup
import Mathlib.Data.List.Perm.Basic

/-!
# What a queue in memory contains

A message that is out stands in the queue exactly once, under a number of its own.  So whatever is
counted of the messages changes by one message when one is published or acknowledged, and not at
all when some are claimed.

* **`perm_ack`** — what an acknowledgement takes out.
* `MemoryQueue.out` — the messages of one task.
* `Holds` — that a delivery stands in the queue as a message in flight; what a claim delivers does,
  and goes on to do so until it is acknowledged itself.
-/

namespace Conveyor

variable {α β : Type}

/-- What stands in a list after a claim was there before or was taken. -/
theorem mem_claimFirst_snd {wanted : α → Bool} {change : α → α} {limit : Nat} {items : List α}
    {a : α} (h : a ∈ (claimFirst wanted change limit items).2) :
    a ∈ items ∨ a ∈ (claimFirst wanted change limit items).1 := by
  fun_induction claimFirst wanted change limit items with
  | case1 => cases h
  | case2 => exact .inl h
  | case3 limit item rest wants taken left eq ih =>
    rw [eq] at ih
    rcases List.mem_cons.1 h with rfl | h
    · exact .inr (List.mem_cons_self ..)
    · rcases ih h with h | h
      · exact .inl (List.mem_cons_of_mem _ h)
      · exact .inr (List.mem_cons_of_mem _ h)
  | case4 limit item rest wants taken left eq ih =>
    rw [eq] at ih
    rcases List.mem_cons.1 h with rfl | h
    · exact .inl (List.mem_cons_self ..)
    · rcases ih h with h | h
      · exact .inl (List.mem_cons_of_mem _ h)
      · exact .inr h

/-- Nothing is taken from a list only if nothing in it is wanted, or nothing may be taken. -/
theorem claimFirst_fst_eq_nil {wanted : α → Bool} {change : α → α} {limit : Nat} {items : List α}
    (positive : 0 < limit) (h : (claimFirst wanted change limit items).1 = []) :
    ∀ a ∈ items, wanted a = false := by
  rw [claimFirst_fst, List.map_eq_nil_iff, List.take_eq_nil_iff] at h
  have none : items.filter wanted = [] := h.resolve_left (by omega)
  intro a mem
  simpa using List.filter_eq_nil_iff.1 none a mem

theorem claimFirst_snd_of_nil {wanted : α → Bool} {change : α → α} {limit : Nat} {items : List α}
    (h : (claimFirst wanted change limit items).1 = []) :
    (claimFirst wanted change limit items).2 = items := by
  fun_induction claimFirst wanted change limit items with
  | case1 => rfl
  | case2 => rfl
  | case3 limit item rest wants taken left eq ih => cases h
  | case4 limit item rest wants taken left eq ih =>
    rw [eq] at ih
    exact congrArg (item :: ·) (ih h)

namespace MemoryQueue

variable {q : MemoryQueue} {m n : StoredMessage}

theorem nodup_ids (q : MemoryQueue) : (q.messages.map (·.id.value)).Nodup :=
  q.numbered.imp fun lt => Int.ne_of_lt lt

theorem eq_of_id_eq (hm : m ∈ q.messages) (hn : n ∈ q.messages) (same : m.id = n.id) : m = n :=
  List.inj_on_of_nodup_map q.nodup_ids hm hn (congrArg MessageId.value same)

/-- **An acknowledgement takes out** the message of its number and nothing else. -/
theorem perm_ack (h : m ∈ q.messages) : q.messages.Perm (m :: (q.ack m.id).messages) := by
  have nodup : q.messages.Nodup := List.Nodup.of_map _ q.nodup_ids
  have rest : (q.ack m.id).messages = q.messages.erase m := by
    rw [messages_ack, nodup.erase_eq_filter]
    refine List.filter_congr fun n mem => ?_
    have iff : n.id = m.id ↔ n = m := ⟨eq_of_id_eq mem h, congrArg StoredMessage.id⟩
    by_cases same : n = m
    · simp [same]
    · simp [same, mt iff.1 same]
  rw [rest]
  exact List.perm_cons_erase h

/-- What a claim keeps of every message, it keeps of the queue. -/
theorem map_claim (f : StoredMessage → β) (keeps : ∀ m : StoredMessage, f m.launched = f m)
    (topic : String) (partition limit : Nat) (q : MemoryQueue) :
    (q.claim topic partition limit).2.messages.map f = q.messages.map f :=
  map_claimFirst_snd _ _ f keeps limit q.messages

/-! ## Messages of a task -/

/-- How many messages of a task are out. -/
def out (id : TaskId) (q : MemoryQueue) : Nat :=
  q.messages.countP fun m => m.envelope.taskId = id

theorem mem_publish (topic : String) (partition : Nat) (e : Envelope) {m : StoredMessage}
    {q : MemoryQueue} (h : m ∈ q.messages) : m ∈ (q.publish topic partition e).2.messages :=
  List.mem_append_left _ h

theorem out_publish (id : TaskId) (topic : String) (partition : Nat) (e : Envelope)
    (q : MemoryQueue) :
    (q.publish topic partition e).2.out id = q.out id + if e.taskId = id then 1 else 0 := by
  rw [out, messages_publish, List.countP_append, ← out]
  by_cases same : e.taskId = id
  · simp [same]
  · simp [same]

theorem out_ack (id : TaskId) (h : m ∈ q.messages) :
    (q.ack m.id).out id + (if m.envelope.taskId = id then 1 else 0) = q.out id := by
  rw [out, out, (perm_ack h).countP_eq, List.countP_cons]
  by_cases same : m.envelope.taskId = id
  · simp [same]
  · simp [same]

theorem out_claim (id : TaskId) (topic : String) (partition limit : Nat) (q : MemoryQueue) :
    (q.claim topic partition limit).2.out id = q.out id := by
  have envelopes := map_claim StoredMessage.envelope (fun _ => rfl) topic partition limit q
  have count := congrArg (List.countP fun e : Envelope => e.taskId = id) envelopes
  rw [List.countP_map, List.countP_map] at count
  exact count

theorem out_recover (id : TaskId) (topic : String) (q : MemoryQueue) :
    (q.recover topic).2.out id = q.out id := by
  show (q.messages.map _).countP _ = _
  rw [List.countP_map]
  refine List.countP_congr fun m _ => ?_
  simp only [Function.comp_apply]
  split <;> rfl

end MemoryQueue

/-! ## Deliveries -/

/-- A delivery stands in a queue as a message in flight. -/
def Holds (q : MemoryQueue) (d : Delivery) : Prop :=
  ∃ m ∈ q.messages, m.inFlight = true ∧ m.delivery = d

namespace Holds

variable {q : MemoryQueue} {d d' : Delivery}

theorem publish (h : Holds q d) (topic : String) (partition : Nat) (e : Envelope) :
    Holds (q.publish topic partition e).2 d := by
  obtain ⟨m, mem, rest⟩ := h
  exact ⟨m, List.mem_append_left _ mem, rest⟩

theorem ack (h : Holds q d) (apart : d.id ≠ d'.id) : Holds (q.ack d'.id) d := by
  obtain ⟨m, mem, flying, same⟩ := h
  have id : m.id = d.id := congrArg Delivery.id same
  refine ⟨m, ?_, flying, same⟩
  rw [MemoryQueue.messages_ack, List.mem_filter]
  exact ⟨mem, by simpa [id] using apart⟩

/-- **What a claim delivers** stands in the queue, on the topic and partition that were asked
for. -/
theorem of_claim {topic : String} {partition limit : Nat}
    (h : d ∈ (q.claim topic partition limit).1) :
    Holds (q.claim topic partition limit).2 d ∧ d.topic = topic ∧ d.partition = partition := by
  obtain ⟨m, taken, rfl⟩ := List.mem_map.1 h
  have stays := (claimFirst_sublist _ _ limit q.messages).subset taken
  rw [claimFirst_fst] at taken
  obtain ⟨n, first, rfl⟩ := List.mem_map.1 taken
  have wanted := (List.mem_filter.1 (List.mem_of_mem_take first)).2
  simp only [StoredMessage.isPendingOn, Bool.and_eq_true, decide_eq_true_eq] at wanted
  exact ⟨⟨n.launched, stays, rfl, rfl⟩, wanted.2, wanted.1.2⟩

end Holds

namespace MemoryQueue

variable {q : MemoryQueue}

theorem nodup_claim (topic : String) (partition limit : Nat) (q : MemoryQueue) :
    ((q.claim topic partition limit).1.map Delivery.id).Nodup := by
  have taken := (claimFirst_sublist (StoredMessage.isPendingOn topic partition)
    StoredMessage.launched limit q.messages).map StoredMessage.id
  have left : ((q.claim topic partition limit).2.messages.map StoredMessage.id).Nodup := by
    rw [map_claim _ (fun _ => rfl)]
    refine List.Nodup.of_map MessageId.value ?_
    rw [List.map_map]
    exact q.nodup_ids
  have ids : (q.claim topic partition limit).1.map Delivery.id
      = (claimFirst (StoredMessage.isPendingOn topic partition) StoredMessage.launched limit
          q.messages).1.map StoredMessage.id := List.map_map
  rw [ids]
  exact left.sublist taken

/-- What is in flight after a claim was so before, or is delivered. -/
theorem inFlight_claim {topic : String} {partition limit : Nat} {m : StoredMessage}
    (h : m ∈ (q.claim topic partition limit).2.messages) :
    m ∈ q.messages ∨ m.id ∈ (q.claim topic partition limit).1.map Delivery.id := by
  rcases mem_claimFirst_snd h with before | taken
  · exact .inl before
  · right
    refine List.mem_map.2 ⟨m.delivery, List.mem_map_of_mem taken, rfl⟩

/-- A claim delivers nothing only if nothing waits; then it changes nothing either. -/
theorem claim_eq_nil {topic : String} {partition limit : Nat} (positive : 0 < limit)
    (h : (q.claim topic partition limit).1 = []) :
    (∀ m ∈ q.messages, m.isPendingOn topic partition = false) ∧
      (q.claim topic partition limit).2 = q := by
  have none := List.map_eq_nil_iff.1 h
  refine ⟨claimFirst_fst_eq_nil positive none, ?_⟩
  have same := claimFirst_snd_of_nil none
  cases q
  simp only [claim, rewritten] at same ⊢
  simp [same]

end MemoryQueue

end Conveyor
