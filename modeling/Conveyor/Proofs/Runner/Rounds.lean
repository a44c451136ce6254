import Conveyor.Proofs.Runner.Draining

/-!
# A drain as polls

A drain is nothing but polls of the runner's workers, round by round.  It ends because the workers
stand in the order in which records go: whoever hands a record on has the worker who takes it over
behind him, so that the last worker of a round who finds anything ends all that he has found, and
there is a message less.  This holds of any topologies, also of such that share topics.

* `Runner.polls` — the polls of a drain.
* `Cascade` — workers that hand records on only to workers behind them;
  **`Runner.cascade_new`** says that those of a runner do.
* **`length_polled_lt`** — a round that finds something leaves fewer messages.
* **`Runner.drain_eq`** — a drain is polling without a bound, and after it no worker finds anything.
-/

namespace Conveyor

variable {V : Type}

/-! ## Workers in the order of records -/

/-- Workers that hand records on only to workers behind them. -/
def Cascade : List (Worker V) → Prop
  | [] => True
  | w :: rest =>
      (∀ topic, w.next = some topic → ∀ e : Envelope, ∃ w' ∈ rest,
        w'.topic = topic ∧ w'.partition = w.topology.partitionFor e) ∧ Cascade rest

/-- Workers in front of others that take over all that they hand on. -/
theorem Cascade.append {ws ws' : List (Worker V)} (behind : Cascade ws')
    (takes : ∀ w ∈ ws, ∀ topic, w.next = some topic → ∀ e : Envelope, ∃ w' ∈ ws',
      w'.topic = topic ∧ w'.partition = w.topology.partitionFor e) : Cascade (ws ++ ws') := by
  induction ws with
  | nil => exact behind
  | cons w rest ih =>
    refine ⟨fun topic next e => ?_, ih fun w mem => takes w (List.mem_cons_of_mem _ mem)⟩
    obtain ⟨w', mem, place⟩ := takes w List.mem_cons_self topic next e
    exact ⟨w', List.mem_append_right _ mem, place⟩

theorem Cascade.append_cascade {ws ws' : List (Worker V)} (h : Cascade ws) (h' : Cascade ws') :
    Cascade (ws ++ ws') := by
  induction ws with
  | nil => exact h'
  | cons w rest ih =>
    refine ⟨fun topic next e => ?_, ih h.2⟩
    obtain ⟨w', mem, place⟩ := h.1 topic next e
    exact ⟨w', List.mem_append_left _ mem, place⟩

namespace Runner

/-- The workers of the stage at an index. -/
def workersAt (batch : Nat) (t : Topology V) (index : Nat) : List (Worker V) :=
  (List.range t.partitions).filterMap fun partition => Worker.new? t index partition batch

theorem exists_workerAt {t : Topology V} {index : Nat} {topic : String}
    (there : t.topic? index = some topic) (batch : Nat) {partition : Nat}
    (lt : partition < t.partitions) :
    ∃ w ∈ workersAt batch t index, w.topic = topic ∧ w.partition = partition := by
  obtain ⟨stage, found, rfl⟩ := Option.map_eq_some_iff.1 there
  obtain ⟨w, new⟩ : ∃ w, Worker.new? t index partition batch = some w := by
    rw [Worker.new?, found]
    exact ⟨_, rfl⟩
  refine ⟨w, List.mem_filterMap.2 ⟨partition, List.mem_range.2 lt, new⟩, ?_⟩
  rw [Worker.new?, found] at new
  cases new
  exact ⟨rfl, rfl⟩

theorem cascade_workersOf (batch : Nat) (t : Topology V) : Cascade (workersOf batch t) := by
  have from_index : ∀ n first, first + n = t.entries.length →
      Cascade ((List.range' first n).flatMap (workersAt batch t)) := by
    intro n
    induction n with
    | zero => exact fun _ _ => trivial
    | succ n ih =>
      intro first sum
      rw [List.range'_succ, List.flatMap_cons]
      refine (ih (first + 1) (by omega)).append fun w mem topic next e => ?_
      obtain ⟨partition, -, new⟩ := List.mem_filterMap.1 mem
      obtain ⟨stage, -, rfl⟩ := Option.map_eq_some_iff.1 new
      have next : t.topic? (first + 1) = some topic := next
      obtain ⟨w', mem, place⟩ := exists_workerAt next batch (t.partitionFor_lt e)
      have inside : first + 1 < t.entries.length := by
        obtain ⟨stage, found, -⟩ := Option.map_eq_some_iff.1 next
        obtain ⟨inside, -⟩ := List.getElem?_eq_some_iff.1 found
        rwa [Topology.stages, List.length_map] at inside
      refine ⟨w', List.mem_flatMap.2 ⟨first + 1, ?_, mem⟩, place⟩
      exact List.mem_range'_1.2 ⟨Nat.le_refl _, by omega⟩
  have all := from_index t.entries.length 0 (Nat.zero_add _)
  rwa [← List.range_eq_range'] at all

/-- **The workers of a runner** hand records on only to workers behind them. -/
theorem cascade_new (topologies : List (Topology V)) (interval : Millis) (batch : Nat) :
    Cascade (Runner.new topologies interval batch).workers := by
  show Cascade (topologies.flatMap (workersOf batch))
  induction topologies with
  | nil => exact trivial
  | cons t rest ih =>
    rw [List.flatMap_cons]
    exact (cascade_workersOf batch t).append_cascade ih

end Runner

/-! ## Polls and the number of messages -/

namespace MemoryQueue

variable {q : MemoryQueue} {d : Delivery}

/-- Whether a message waits on a partition. -/
def Waiting (topic : String) (partition : Nat) (q : MemoryQueue) : Prop :=
  ∃ m ∈ q.messages, m.isPendingOn topic partition = true

theorem length_ack_of_holds (held : Holds q d) :
    (q.ack d.id).messages.length + 1 = q.messages.length := by
  obtain ⟨m, mem, -, rfl⟩ := held
  exact (perm_ack mem).length_eq.symm

/-- A message that is published while another is in flight waits when that is acknowledged. -/
theorem waiting_publish_ack (held : Holds q d) (topic : String) (partition : Nat) (e : Envelope) :
    ((q.publish topic partition e).2.ack d.id).Waiting topic partition := by
  obtain ⟨m, mem, -, rfl⟩ := held
  have old : m.id.value ≤ q.issued := q.given _ (List.mem_map_of_mem mem)
  refine ⟨⟨⟨q.issued + 1⟩, topic, partition, e, false, 0⟩, List.mem_filter.2 ⟨?_, ?_⟩, ?_⟩
  · exact List.mem_append_right _ (List.mem_singleton_self _)
  · refine decide_eq_true fun same => ?_
    have values : (q.issued + 1 : Int) = m.id.value := congrArg MessageId.value same
    omega
  · simp [StoredMessage.isPendingOn]

end MemoryQueue

namespace Worker

variable {w : Worker V} {d : Delivery} {p p' : MemoryPlant V}

theorem batchOf_eq_nil_iff : w.batchOf p = [] ↔ ¬ p.queue.Waiting w.topic w.partition := by
  constructor
  · rintro none ⟨m, mem, waits⟩
    rw [(MemoryQueue.claim_eq_nil w.batch_pos none).1 m mem] at waits
    cases waits
  · intro idle
    have none : p.queue.messages.filter (StoredMessage.isPendingOn w.topic w.partition) = [] :=
      List.filter_eq_nil_iff.2 fun m mem waits => idle ⟨m, mem, waits⟩
    show (claimFirst _ _ w.batch p.queue.messages).1.map StoredMessage.delivery = []
    rw [claimFirst_fst, none, List.take_nil]
    rfl

variable [Clock V]

/-- A message that is handled is gone, or there is another one in its place where the worker hands
records on. -/
theorem Handles.length (h : Handles w d p p') (held : Holds p.queue d) :
    p'.queue.messages.length + 1 = p.queue.messages.length ∨
      p'.queue.messages.length = p.queue.messages.length ∧ ∃ topic e, w.next = some topic ∧
        p'.queue.Waiting topic (w.topology.partitionFor e) := by
  cases h with
  | void => exact .inl (MemoryQueue.length_ack_of_holds held)
  | ended => exact .inl (MemoryQueue.length_ack_of_holds held)
  | onward live run next =>
    rename_i topic e services
    have acked := MemoryQueue.length_ack_of_holds
      (held.publish topic (w.topology.partitionFor e) e)
    rw [MemoryQueue.messages_publish, List.length_append, List.length_singleton] at acked
    exact .inr ⟨Nat.add_right_cancel acked, topic, e, next, MemoryQueue.waiting_publish_ack held ..⟩

/-- **A poll that finds something** leaves fewer messages, or one that waits where the worker hands
records on; and no poll leaves more. -/
theorem length_poll (w : Worker V) (p : MemoryPlant V) :
    (w.poll p).2.queue.messages.length ≤ p.queue.messages.length ∧
      (w.batchOf p = [] ∨ (w.poll p).2.queue.messages.length < p.queue.messages.length ∨
        ∃ topic e, w.next = some topic ∧
          (w.poll p).2.queue.Waiting topic (w.topology.partitionFor e)) := by
  have claimed : (w.claimed p).queue.messages.length = p.queue.messages.length := by
    have ids := MemoryQueue.map_claim StoredMessage.id (fun _ => rfl) w.topic w.partition w.batch
      p.queue
    have lengths := congrArg List.length ids
    rwa [List.length_map, List.length_map] at lengths
  obtain ⟨-, fewer, news⟩ := w.poll_induction (I := fun n q =>
    q.queue.messages.length ≤ p.queue.messages.length ∧
      (n = 0 ∨ q.queue.messages.length < p.queue.messages.length ∨
        ∃ topic e, w.next = some topic ∧ q.queue.Waiting topic (w.topology.partitionFor e))) p
    ⟨claimed.le, .inl rfl⟩ (by
      rintro n d q q' ⟨fewer, -⟩ held - - handles
      rcases handles.length held with less | ⟨same, waiting⟩
      · exact ⟨by omega, .inr (.inl (by omega))⟩
      · exact ⟨by omega, .inr (.inr waiting)⟩)
  exact ⟨fewer, news.imp_left List.length_eq_zero_iff.1⟩

end Worker

/-! ## A round -/

section

variable [Clock V] {ws : List (Worker V)} {p : MemoryPlant V}

theorem length_polled_le (ws : List (Worker V)) (p : MemoryPlant V) :
    (p.polled ws).queue.messages.length ≤ p.queue.messages.length :=
  Plant.polled_induction (P := fun q => q.queue.messages.length ≤ p.queue.messages.length)
    (fun w _ q fewer => Nat.le_trans (w.length_poll q).1 fewer) (Nat.le_refl _)

/-- **A round that finds something** leaves fewer messages, since what a worker hands on is found by
a worker behind him. -/
theorem length_polled_lt (cascade : Cascade ws) (found : ∃ w ∈ ws, w.batchOf p ≠ []) :
    (p.polled ws).queue.messages.length < p.queue.messages.length := by
  induction ws generalizing p with
  | nil => exact absurd found (by simp)
  | cons w rest ih =>
    obtain ⟨fewer, news⟩ := w.length_poll p
    show ((w.poll p).2.polled rest).queue.messages.length < _
    rcases news with none | less | ⟨topic, e, next, waiting⟩
    · have same : (w.poll p).2 = p := by rw [Worker.poll_of_batch_nil none]
      rw [same]
      obtain ⟨w', mem, some⟩ := found
      rcases List.mem_cons.1 mem with rfl | mem
      · exact absurd none some
      · exact ih cascade.2 ⟨w', mem, some⟩
    · exact Nat.lt_of_le_of_lt (length_polled_le rest _) less
    · obtain ⟨w', mem, rfl, place⟩ := cascade.1 topic next e
      rw [← place] at waiting
      have some : w'.batchOf (w.poll p).2 ≠ [] :=
        fun none => Worker.batchOf_eq_nil_iff.1 none waiting
      exact Nat.lt_of_lt_of_le (ih cascade.2 ⟨w', mem, some⟩) fewer

end

/-! ## A drain -/

namespace Runner

variable [Clock V] {r : Runner V} {limit : Nat} {p q : MemoryPlant V}

/-- The polls of a drain of at most so many rounds. -/
def pollsWithin (r : Runner V) : Nat → MemoryPlant V → List (Worker V)
  | 0, _ => []
  | limit + 1, p =>
      r.workers ++ match (r.poll p).1 with
        | .ok 0 => []
        | _ => r.pollsWithin limit (r.poll p).2

/-- The polls of a drain, the first of which comes first. -/
def polls (r : Runner V) (p : MemoryPlant V) : List (Worker V) :=
  r.pollsWithin (r.horizon p + 1) p

theorem pollsWithin_of_idle (run : r.poll p = (.ok 0, q)) :
    r.pollsWithin (limit + 1) p = r.workers := by
  rw [pollsWithin, run]
  exact List.append_nil _

theorem pollsWithin_of_found {k : Nat} (run : r.poll p = (.ok (k + 1), q)) :
    r.pollsWithin (limit + 1) p = r.workers ++ r.pollsWithin limit q := by
  rw [pollsWithin, run]
  rfl

theorem mem_pollsWithin {w : Worker V} (h : w ∈ r.pollsWithin limit p) : w ∈ r.workers := by
  induction limit generalizing p with
  | zero => cases h
  | succ limit ih =>
    rw [pollsWithin] at h
    rcases List.mem_append.1 h with mem | mem
    · exact mem
    · split at mem
      · cases mem
      · exact ih mem

/-- What happens in a drain of so many rounds are its polls. -/
theorem drainWithin_eq (r : Runner V) (limit : Nat) (p : MemoryPlant V) :
    ∃ k, r.drainWithin limit p = (.ok k, p.polled (r.pollsWithin limit p)) := by
  induction limit generalizing p with
  | zero => exact ⟨0, rfl⟩
  | succ limit ih =>
    obtain ⟨k, run, -⟩ := sum_poll r.workers p
    have run : r.poll p = (.ok k, p.polled r.workers) := run
    cases k with
    | zero =>
      rw [pollsWithin_of_idle run]
      exact ⟨0, drainWithin_of_idle run⟩
    | succ k =>
      obtain ⟨k', rest⟩ := ih (p.polled r.workers)
      rw [pollsWithin_of_found run, Plant.polled_append]
      exact ⟨k + 1 + k', drainWithin_of_found run rest⟩

/-- **A drain is polling without a bound**, whatever topics the topologies share: it is its polls,
and after them no worker finds anything. -/
theorem drain_eq (topologies : List (Topology V)) (interval : Millis) (batch : Nat)
    (p : MemoryPlant V) :
    ∃ k, (Runner.new topologies interval batch).Drains p k
        (p.polled ((Runner.new topologies interval batch).polls p)) ∧
      (Runner.new topologies interval batch).drain p
        = (.ok k, p.polled ((Runner.new topologies interval batch).polls p)) ∧
      ∀ w ∈ (Runner.new topologies interval batch).workers,
        w.batchOf (p.polled ((Runner.new topologies interval batch).polls p)) = [] := by
  set r := Runner.new topologies interval batch
  obtain ⟨k, q, drains, within, -, idle⟩ := drains_of_rounds (r := r) (J := fun _ _ => True)
    (μ := r.horizon) (F := fun q => ∀ w ∈ r.workers, w.batchOf q = []) (n := 0) (p := p)
    (by
      intro n p _
      obtain ⟨k, run, idle, still⟩ := sum_poll r.workers p
      refine ⟨k, p.polled r.workers, run, trivial, fun zero => ?_, fun some => ?_⟩
      · rw [still zero]
        exact idle.1 zero
      · -- a worker has found something, so there are topics, and there are fewer messages now
        obtain ⟨w, mem, found⟩ : ∃ w ∈ r.workers, w.batchOf p ≠ [] := by
          by_contra none
          push Not at none
          exact some (idle.2 none)
        exact Nat.mul_lt_mul_of_pos_right
          (length_polled_lt (cascade_new topologies interval batch) ⟨w, mem, found⟩)
          (length_topics_pos mem))
    trivial
  obtain ⟨k', polls⟩ := drainWithin_eq r (r.horizon p + 1) p
  have drained := within _ (Nat.lt_succ_self (r.horizon p))
  obtain ⟨same, rfl⟩ := Prod.mk.inj (drained.symm.trans polls)
  exact ⟨k, drains, drained, idle⟩

end Runner

end Conveyor
