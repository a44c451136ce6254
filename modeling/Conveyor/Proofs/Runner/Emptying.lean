import Conveyor.Proofs.Runner.Draining
import Conveyor.Proofs.Runner.KeyOrder
import Conveyor.Proofs.Runner.Lookups
import Mathlib.Algebra.GroupWithZero.Nat
import Mathlib.Algebra.Order.BigOperators.Group.List
import Mathlib.Algebra.Order.Group.Nat

/-!
# Draining until nothing moves

A drain polls as long as messages are acknowledged.  Every acknowledged message takes a stage off
the way that the messages of the queue have before them, so there is an end to it, whatever the
stages make of the records.

* `MemoryQueue.weight` — the stages before all messages of a queue.
* `Advance` — messages in flight and those on other topics stay, and each acknowledgement takes
  weight off; **`Worker.Polls.advance`** and `Rounds.advance` say so of polls.
* `Rounds.idle` — a round that acknowledges nothing has met with lost tasks only.
* **`Runner.exists_drains`** — polling without a bound comes to an end, and a drain is the same.
* **`Runner.drain_empties`** — if no call fails, nothing waits on the topics of the runner then.
-/

namespace Conveyor

variable {V : Type}

/-! ## Lists with some items changed -/

theorem filter_map_of {α : Type} {P Q : α → Bool} {f : α → α} {items : List α}
    (same : ∀ a ∈ items, P (f a) = Q a) (still : ∀ a ∈ items, Q a = true → f a = a) :
    (items.map f).filter P = items.filter Q := by
  induction items with
  | nil => rfl
  | cons a rest ih =>
    have rest := ih (fun b mem => same b (List.mem_cons_of_mem _ mem))
      fun b mem => still b (List.mem_cons_of_mem _ mem)
    rw [List.map_cons, List.filter_cons, List.filter_cons, rest, same a List.mem_cons_self]
    split
    · rename_i kept
      rw [still a List.mem_cons_self kept]
    · rfl

/-! ## The queue of one message -/

namespace MemoryQueue

variable {q : MemoryQueue} {d : Delivery}

/-- The stages before the messages of a queue, by topic. -/
def weight (ahead : String → Nat) (q : MemoryQueue) : Nat :=
  (q.messages.map fun m => ahead m.topic).sum

/-- They are before those that wait, or those in flight. -/
theorem weight_eq (ahead : String → Nat) (q : MemoryQueue) :
    q.weight ahead = ((q.messages.filter (!·.inFlight)).map fun m => ahead m.topic).sum
      + ((q.messages.filter (·.inFlight)).map fun m => ahead m.topic).sum := by
  have split := (List.filter_append_perm (fun m : StoredMessage => m.inFlight) q.messages).map
    fun m => ahead m.topic
  rw [weight, ← split.sum_eq, List.map_append, List.sum_append, Nat.add_comm]

theorem weight_publish (ahead : String → Nat) (topic : String) (partition : Nat) (e : Envelope) :
    (q.publish topic partition e).2.weight ahead = q.weight ahead + ahead topic := by
  simp [weight]

theorem weight_ack (ahead : String → Nat) (held : Holds q d) :
    (q.ack d.id).weight ahead + ahead d.topic = q.weight ahead := by
  obtain ⟨m, mem, -, rfl⟩ := held
  have sum := ((perm_ack mem).map fun m => ahead m.topic).sum_eq
  rw [List.map_cons, List.sum_cons] at sum
  rw [weight, weight, sum, Nat.add_comm]
  rfl

theorem weight_release (ahead : String → Nat) (id : MessageId) :
    (q.release id).weight ahead = q.weight ahead := by
  have topics : (q.release id).messages.map StoredMessage.topic
      = q.messages.map StoredMessage.topic := by
    show (q.messages.map _).map _ = _
    rw [List.map_map]
    refine List.map_congr_left fun m _ => ?_
    simp only [Function.comp_apply]
    split <;> rfl
  have sums := congrArg (fun topics => (topics.map ahead).sum) topics
  simpa only [weight, List.map_map, Function.comp_def] using sums

/-- The messages of a batch are those that the claim took. -/
theorem mem_batch_iff {topic : String} {partition limit : Nat} {m : StoredMessage}
    (mem : m ∈ q.messages) :
    m.id ∈ (q.claim topic partition limit).1.map Delivery.id
      ↔ m ∈ taken topic partition limit q := by
  rw [batch_eq, List.map_map]
  constructor
  · intro there
    obtain ⟨s, took, same⟩ := List.mem_map.1 there
    obtain rfl := eq_of_id_eq (mem_of_taken took).1 mem same
    exact took
  · exact fun took => List.mem_map.2 ⟨m, took, rfl⟩

theorem weight_claim (ahead : String → Nat) (topic : String) (partition limit : Nat) :
    (q.claim topic partition limit).2.weight ahead = q.weight ahead :=
  congrArg List.sum (map_claim (fun m => ahead m.topic) (fun _ => rfl) topic partition limit q)

end MemoryQueue

namespace Worker

variable {w : Worker V} {B : Set TaskId} {d : Delivery} {q q' : MemoryQueue} {k : Nat}

namespace Treats

theorem spares (h : w.Treats B d q k q') : MemoryQueue.Spares [d.id] q q' := by
  cases h with
  | back => exact .release ..
  | off => exact .ack ..
  | onward e found next => exact (MemoryQueue.Spares.publish ..).trans (.ack ..)

/-- Messages that are told apart from the one in question, and from those that are published, are
the same as before. -/
theorem filter_eq {P Q : StoredMessage → Bool} (h : w.Treats B d q k q')
    (others : ∀ m ∈ q.messages, m.id ≠ d.id → P m = Q m)
    (own : ∀ m ∈ q.messages, m.id = d.id → Q m = false ∧ P m.landed = false)
    (fresh : ∀ m : StoredMessage, w.next = some m.topic → m.inFlight = false → P m = false) :
    q'.messages.filter P = q.messages.filter Q := by
  have acked : ∀ messages : List StoredMessage, (∀ m ∈ messages, m ∈ q.messages) →
      (messages.filter fun m => m.id ≠ d.id).filter P = messages.filter Q := by
    intro messages sub
    rw [List.filter_filter]
    refine List.filter_congr fun m mem => ?_
    by_cases same : m.id = d.id
    · simp [same, (own m (sub m mem) same).1]
    · simp [same, others m (sub m mem) same]
  cases h with
  | back lost =>
    refine filter_map_of (fun m mem => ?_) fun m mem kept => ?_
    · by_cases same : m.id = d.id
      · rw [if_pos same, (own m mem same).1, (own m mem same).2]
      · rw [if_neg same, others m mem same]
    · refine if_neg fun same => ?_
      rw [(own m mem same).1] at kept
      cases kept
  | off found => exact acked _ fun m mem => mem
  | onward e found next =>
    have new : ∀ id topic partition, w.next = some topic →
        P ⟨id, topic, partition, e, false, 0⟩ = false := fun id topic partition next =>
      fresh _ next rfl
    rw [MemoryQueue.messages_ack, MemoryQueue.messages_publish, List.filter_append,
      List.filter_append, acked _ fun m mem => mem, List.filter_filter, List.filter_singleton,
      new _ _ _ next]
    simp

theorem weight_le {ahead : String → Nat} (h : w.Treats B d q k q') (held : Holds q d)
    (less : ∀ topic, w.next = some topic → ahead topic < ahead d.topic)
    (positive : 0 < ahead d.topic) : k + q'.weight ahead ≤ q.weight ahead := by
  cases h with
  | back lost => rw [MemoryQueue.weight_release, Nat.zero_add]
  | off found =>
    have acked := MemoryQueue.weight_ack ahead held
    omega
  | onward e found next =>
    rename_i topic
    have acked := MemoryQueue.weight_ack ahead
      (held.publish topic (w.topology.partitionFor e) e)
    rw [MemoryQueue.weight_publish] at acked
    have less := less topic next
    omega

end Treats

end Worker

/-! ## Polls -/

/-- What polls come to, however many: messages in flight and those on topics that nobody works on
are as before, and each acknowledgement has taken weight off. -/
structure Advance (topics : List String) (ahead : String → Nat) (q : MemoryQueue) (k : Nat)
    (q' : MemoryQueue) : Prop where
  flying : q'.messages.filter (·.inFlight) = q.messages.filter (·.inFlight)
  elsewhere : q'.messages.filter (·.topic ∉ topics) = q.messages.filter (·.topic ∉ topics)
  weight : k + q'.weight ahead ≤ q.weight ahead

namespace Advance

variable {topics : List String} {ahead : String → Nat} {q q' q'' : MemoryQueue} {k n : Nat}

theorem refl (topics : List String) (ahead : String → Nat) (q : MemoryQueue) :
    Advance topics ahead q 0 q := ⟨rfl, rfl, (Nat.zero_add _).le⟩

theorem trans (h : Advance topics ahead q k q') (h' : Advance topics ahead q' n q'') :
    Advance topics ahead q (k + n) q'' := by
  refine ⟨h'.flying.trans h.flying, h'.elsewhere.trans h.elsewhere, ?_⟩
  have first := h.weight
  have second := h'.weight
  omega

end Advance

namespace Worker

variable {w : Worker V} {B : Set TaskId} {batch : List Delivery} {topics : List String}
  {ahead : String → Nat} {q q' : MemoryQueue} {k : Nat}

/-- A worker works on one of some topics and hands records on to another one of them, which has
fewer stages before it. -/
structure Descends (topics : List String) (ahead : String → Nat) (w : Worker V) : Prop where
  here : w.topic ∈ topics
  positive : 0 < ahead w.topic
  there : ∀ topic, w.next = some topic → topic ∈ topics
  less : ∀ topic, w.next = some topic → ahead topic < ahead w.topic

/-- A batch that is dealt with is not in flight any more; whatever else was in flight is. -/
theorem Serves.flying (h : w.Serves B batch q k q') :
    q'.messages.filter (·.inFlight)
      = q.messages.filter fun m => m.inFlight && decide (m.id ∉ batch.map Delivery.id) := by
  induction h with
  | nil => simp
  | @cons d rest q q' q'' k n first others ih =>
    rw [ih]
    refine first.filter_eq (fun m _ apart => ?_) (fun m _ same => ?_) fun m _ pending => ?_
    · simp [apart]
    · simp [same, StoredMessage.landed]
    · simp [pending]

theorem Serves.elsewhere (h : w.Serves B batch q k q') (claimed : w.Claimed batch q)
    (descends : w.Descends topics ahead) :
    q'.messages.filter (·.topic ∉ topics) = q.messages.filter (·.topic ∉ topics) := by
  induction h with
  | nil => rfl
  | @cons d rest q q' q'' k n first others ih =>
    rw [ih (claimed.rest first.spares)]
    refine first.filter_eq (fun _ _ _ => rfl) (fun m mem same => ?_) fun m next _ => ?_
    · -- the message of the batch is on the topic of the worker
      obtain ⟨m', mem', -, rfl⟩ := claimed.held d List.mem_cons_self
      obtain rfl := MemoryQueue.eq_of_id_eq mem mem' same
      have topic : m.topic = w.topic := claimed.topic m.delivery List.mem_cons_self
      have topic : m.topic ∈ topics := topic ▸ descends.here
      simp [StoredMessage.landed, topic]
    · simp [descends.there _ next]

theorem Serves.weight_le (h : w.Serves B batch q k q') (claimed : w.Claimed batch q)
    (descends : w.Descends topics ahead) : k + q'.weight ahead ≤ q.weight ahead := by
  induction h with
  | nil => exact (Nat.zero_add _).le
  | @cons d rest q q' q'' k n first others ih =>
    have topic := claimed.topic d List.mem_cons_self
    have here := first.weight_le (claimed.held d List.mem_cons_self)
      (topic ▸ descends.less) (topic ▸ descends.positive)
    have there := ih (claimed.rest first.spares)
    omega

/-- **A poll** leaves messages in flight and those of other topics as they were, and takes weight
off with every message that it acknowledges. -/
theorem Polls.advance (h : w.Polls B q k q') (descends : w.Descends topics ahead) :
    Advance topics ahead q k q' := by
  have claimed := w.claimed_claim q
  have messages := MemoryQueue.messages_claim w.topic w.partition w.batch q
  constructor
  case flying =>
    rw [Serves.flying h, messages]
    refine filter_map_of (fun m mem => ?_) fun m mem flying => ?_
    · by_cases took : m ∈ MemoryQueue.taken w.topic w.partition w.batch q
      · have batched := (MemoryQueue.mem_batch_iff mem).2 took
        rw [if_pos took, (MemoryQueue.pending_of_taken took).1]
        simp only [StoredMessage.launched, batched, not_true, decide_false, Bool.and_false]
      · have apart := mt (MemoryQueue.mem_batch_iff mem).1 took
        rw [if_neg took]
        simp only [apart, not_false_eq_true, decide_true, Bool.and_true]
    · refine if_neg fun took => ?_
      rw [(MemoryQueue.pending_of_taken took).1] at flying
      cases flying
  case elsewhere =>
    rw [Serves.elsewhere h claimed descends, messages]
    refine filter_map_of (fun m mem => ?_) fun m mem away => ?_
    · split <;> rfl
    · refine if_neg fun took => ?_
      rw [(MemoryQueue.pending_of_taken took).2.1] at away
      exact of_decide_eq_true away descends.here
  case weight =>
    have taken := Serves.weight_le h claimed descends
    rwa [MemoryQueue.weight_claim] at taken

/-! ## Polls that acknowledge nothing -/

end Worker

/-- A message as if it had never been delivered. -/
def StoredMessage.untried (m : StoredMessage) : StoredMessage := { m with attempts := 0 }

namespace Worker

variable {w : Worker V} {B : Set TaskId} {batch : List Delivery} {q q' : MemoryQueue} {k : Nat}

/-- A batch of which nothing is acknowledged is of lost tasks, and is given back. -/
theorem Serves.idle (h : w.Serves B batch q k q') (none : k = 0) :
    (∀ d ∈ batch, d.envelope.taskId ∈ B) ∧
      q'.messages = q.messages.map fun m =>
        if m.id ∈ batch.map Delivery.id then m.landed else m := by
  induction h with
  | nil => simp
  | @cons d rest q q' q'' k n first others ih =>
    obtain ⟨rfl, rfl⟩ : k = 0 ∧ n = 0 := by omega
    obtain ⟨lost, given⟩ := ih rfl
    cases first with
    | back here =>
      refine ⟨List.forall_mem_cons.2 ⟨here, lost⟩, ?_⟩
      rw [given]
      show (q.messages.map _).map _ = _
      rw [List.map_map]
      refine List.map_congr_left fun m _ => ?_
      by_cases same : m.id = d.id
      · by_cases again : d.id ∈ rest.map Delivery.id <;>
          simp [same, again, StoredMessage.landed]
      · simp [same]

/-- A poll that acknowledges nothing has met with lost tasks only, and leaves every message where it
was. -/
theorem Polls.idle (h : w.Polls B q 0 q') :
    (∀ m ∈ MemoryQueue.taken w.topic w.partition w.batch q, m.envelope.taskId ∈ B) ∧
      q'.messages.map StoredMessage.untried = q.messages.map StoredMessage.untried := by
  obtain ⟨lost, given⟩ := Serves.idle h rfl
  constructor
  · intro m took
    rw [MemoryQueue.batch_eq] at lost
    exact lost _ (List.mem_map_of_mem took)
  · rw [given, MemoryQueue.messages_claim, List.map_map, List.map_map]
    refine List.map_congr_left fun m mem => ?_
    simp only [Function.comp_apply]
    by_cases took : m ∈ MemoryQueue.taken w.topic w.partition w.batch q
    · have batched := (MemoryQueue.mem_batch_iff mem).2 took
      have still := (MemoryQueue.pending_of_taken took).1
      have same : m.launched.id = m.id := rfl
      rw [if_pos took, same, if_pos batched, StoredMessage.untried, StoredMessage.untried,
        StoredMessage.landed, StoredMessage.launched, still]
    · have apart := mt (MemoryQueue.mem_batch_iff mem).1 took
      rw [if_neg took, if_neg apart]

end Worker

/-- What a claim would take goes by the messages as if they had never been delivered. -/
theorem MemoryQueue.untried_taken {q q' : MemoryQueue}
    (same : q'.messages.map StoredMessage.untried = q.messages.map StoredMessage.untried)
    (topic : String) (partition limit : Nat) :
    (taken topic partition limit q').map StoredMessage.untried
      = (taken topic partition limit q).map StoredMessage.untried := by
  have filtered : ∀ r : MemoryQueue,
      (r.messages.filter (StoredMessage.isPendingOn topic partition)).map StoredMessage.untried
        = (r.messages.map StoredMessage.untried).filter
          (StoredMessage.isPendingOn topic partition) := by
    intro r
    rw [List.filter_map]
    rfl
  rw [taken, taken, List.map_take, List.map_take, filtered, filtered, same]

section

variable {ws : List (Worker V)} {B : Set TaskId} {topics : List String} {ahead : String → Nat}
  {q q' : MemoryQueue} {k : Nat}

theorem Rounds.advance (h : Rounds B ws q k q')
    (descend : ∀ w ∈ ws, w.Descends topics ahead) : Advance topics ahead q k q' := by
  induction h with
  | nil => exact .refl ..
  | cons first others ih =>
    exact (first.advance (descend _ List.mem_cons_self)).trans
      (ih fun w mem => descend w (List.mem_cons_of_mem _ mem))

/-- **A round that acknowledges nothing** leaves every message where it was, and each worker would
claim messages of lost tasks only. -/
theorem Rounds.idle (h : Rounds B ws q k q') (none : k = 0) :
    q'.messages.map StoredMessage.untried = q.messages.map StoredMessage.untried ∧
      ∀ w ∈ ws, ∀ m ∈ MemoryQueue.taken w.topic w.partition w.batch q',
        m.envelope.taskId ∈ B := by
  induction h with
  | nil => simp
  | @cons w rest q q' q'' k n first others ih =>
    obtain ⟨rfl, rfl⟩ : k = 0 ∧ n = 0 := by omega
    obtain ⟨lost, here⟩ := first.idle
    obtain ⟨there, lostRest⟩ := ih rfl
    refine ⟨there.trans here, List.forall_mem_cons.2 ⟨fun m took => ?_, lostRest⟩⟩
    have same := MemoryQueue.untried_taken (there.trans here) w.topic w.partition w.batch
    have took := List.mem_map_of_mem (f := StoredMessage.untried) took
    rw [same] at took
    obtain ⟨m', took', alike⟩ := List.mem_map.1 took
    have envelope : m'.untried.envelope = m.untried.envelope :=
      congrArg StoredMessage.envelope alike
    exact (show m'.envelope = m.envelope from envelope) ▸ lost m' took'

end

/-! ## The workers of topologies -/

namespace Runner

/-- The workers of topologies that share no topic hand records on to topics with fewer stages
before them. -/
theorem descends_new {topologies : List (Topology V)}
    (distinct : (topologies.flatMap Topology.topics).Nodup) {interval : Millis} {batch : Nat}
    {w : Worker V} (mem : w ∈ (Runner.new topologies interval batch).workers) :
    w.Descends (topologies.flatMap Topology.topics)
      fun topic => (chainFrom topologies topic).length := by
  obtain ⟨there, before, after, split, topic, -⟩ := mem_workers_new mem
  obtain ⟨rest, way, -, next⟩ := chainFrom_of_worker distinct mem
  have onTopic : ∀ stage ∈ w.topology.stages,
      stageTopic w.topology.name stage.name ∈ topologies.flatMap Topology.topics :=
    fun stage mem => List.mem_flatMap.2 ⟨w.topology, there, List.mem_map_of_mem mem⟩
  constructor
  case here =>
    rw [topic]
    exact onTopic _ (split ▸ List.mem_append_right _ List.mem_cons_self)
  case positive => simp only [way, List.length_cons, Nat.succ_pos]
  case there =>
    intro topic some
    obtain ⟨-, stage, mem, rfl⟩ := next topic some
    exact onTopic stage mem
  case less =>
    intro topic some
    simp only [way, (next topic some).1, List.length_cons, Nat.lt_succ_self]

/-- A drain begins with a bound on its rounds that is enough for all that there is to do. -/
theorem weight_le_horizon (topologies : List (Topology V)) (interval : Millis) (batch : Nat)
    {T N : Type} (p : Plant MemoryQueue T N V) :
    p.queue.weight (fun topic => (chainFrom topologies topic).length)
      ≤ (Runner.new topologies interval batch).horizon p := by
  have sum := List.sum_le_card_nsmul
    (p.queue.messages.map fun m => (chainFrom topologies m.topic).length)
    (topologies.flatMap Topology.topics).length (by
      intro n mem
      obtain ⟨m, -, rfl⟩ := List.mem_map.1 mem
      exact length_chainFrom_le topologies m.topic)
  rw [List.length_map] at sum
  exact sum

end Runner

/-! ## A drain -/

namespace Runner

variable {T N : Type} [TaskStore T] [NotificationSink N] [Clock V] {B : Set TaskId}
  {sound : Tracker T N → Prop}

/-- **Polling comes to an end**, and a drain is the same.  Then each worker would claim messages of
lost tasks only. -/
theorem exists_drains (blind : Tracker.BlindTo B sound) {topologies : List (Topology V)}
    (distinct : (topologies.flatMap Topology.topics).Nodup) (interval : Millis) (batch : Nat)
    {p : Plant MemoryQueue T N V} (ok : sound p.tracker) :
    ∃ k q, (Runner.new topologies interval batch).Drains p k q ∧
      (Runner.new topologies interval batch).drain p = (.ok k, q) ∧
      Advance (topologies.flatMap Topology.topics)
        (fun topic => (chainFrom topologies topic).length) p.queue k q.queue ∧
      ∀ t ∈ topologies, ∀ topic ∈ t.topics, ∀ partition < t.partitions,
        ∀ m ∈ MemoryQueue.taken topic partition (max 1 batch) q.queue,
          m.envelope.taskId ∈ B := by
  set r := Runner.new topologies interval batch
  set topics := topologies.flatMap Topology.topics
  set ahead : String → Nat := fun topic => (chainFrom topologies topic).length
  obtain ⟨k, q, drains, within, ⟨-, advance⟩, lost⟩ := drains_of_rounds (r := r)
    (J := fun n q => sound q.tracker ∧ Advance topics ahead p.queue n q.queue)
    (μ := fun q => q.queue.weight ahead)
    (F := fun q => ∀ w ∈ r.workers, ∀ m ∈ MemoryQueue.taken w.topic w.partition w.batch q.queue,
      m.envelope.taskId ∈ B) (n := 0) (p := p)
    (by
      rintro n p' ⟨ok, so_far⟩
      obtain ⟨k, p'', round, rounds, ok⟩ := sum_rounds blind ok r.workers
      have advance := rounds.advance fun w (mem : w ∈ r.workers) => descends_new distinct mem
      have weight : k + p''.queue.weight ahead ≤ p'.queue.weight ahead := advance.weight
      refine ⟨k, p'', round, ⟨ok, so_far.trans advance⟩, fun none => ?_, fun some => by omega⟩
      exact (rounds.idle none).2)
    ⟨ok, .refl ..⟩
  rw [Nat.zero_add] at advance
  have drained := within _ (Nat.lt_succ_of_le (weight_le_horizon topologies interval batch p))
  refine ⟨k, q, drains, drained, advance, fun t mem topic here partition lt => ?_⟩
  obtain ⟨stage, inside, rfl⟩ := List.mem_map.1 here
  obtain ⟨w, works, onTopic, onPartition⟩ := exists_worker mem inside lt interval batch
  have lost := lost w works
  rwa [onTopic, onPartition, batch_of_mem_new works] at lost

/-- What a drain leaves where no call fails. -/
structure Emptied (topologies : List (Topology V)) (before : MemoryQueue) (k : Nat)
    (after : MemoryQueue) : Prop where
  /-- Nothing waits where there is a worker. -/
  empty : ∀ t ∈ topologies, ∀ topic ∈ t.topics, ∀ partition < t.partitions, ∀ m ∈ after.messages,
    m.isPendingOn topic partition = false
  /-- What was in flight still is, and nothing else. -/
  flying : after.messages.filter (·.inFlight) = before.messages.filter (·.inFlight)
  /-- Other topics are as they were. -/
  elsewhere : after.messages.filter (·.topic ∉ topologies.flatMap Topology.topics)
    = before.messages.filter (·.topic ∉ topologies.flatMap Topology.topics)
  /-- No more was acknowledged than there were stages before the messages that waited. -/
  bound : k ≤ ((before.messages.filter (!·.inFlight)).map fun m =>
    (chainFrom topologies m.topic).length).sum

/-- **A drain empties the topics** of a runner whose topologies share none, if no call fails:
polling comes to an end, and no message waits then, whatever the stages have made of the records. -/
theorem drain_empties (reliable : Tracker.Reliable sound) {topologies : List (Topology V)}
    (distinct : (topologies.flatMap Topology.topics).Nodup) (interval : Millis) (batch : Nat)
    {p : Plant MemoryQueue T N V} (ok : sound p.tracker) :
    ∃ k q, (Runner.new topologies interval batch).Drains p k q ∧
      (Runner.new topologies interval batch).drain p = (.ok k, q) ∧
      Emptied topologies p.queue k q.queue := by
  obtain ⟨k, q, drains, drained, advance, lost⟩ :=
    exists_drains reliable distinct interval batch ok
  refine ⟨k, q, drains, drained, ?_, advance.flying, advance.elsewhere, ?_⟩
  · intro t mem topic here partition lt m there
    by_contra waits
    have none : MemoryQueue.taken topic partition (max 1 batch) q.queue = [] :=
      List.eq_nil_iff_forall_not_mem.2 (lost t mem topic here partition lt)
    rw [MemoryQueue.taken, List.take_eq_nil_iff, List.filter_eq_nil_iff] at none
    rcases none with zero | none
    · omega
    · exact none m there (by simpa using waits)
  · have before := MemoryQueue.weight_eq
      (fun topic => (chainFrom topologies topic).length) p.queue
    have after := MemoryQueue.weight_eq
      (fun topic => (chainFrom topologies topic).length) q.queue
    have total := advance.weight
    rw [advance.flying] at after
    omega

end Runner

/-! ## A record among others -/

/-- A queue on which one record waits, another is in flight, and a third waits elsewhere. -/
def crowdedQueue : MemoryQueue :=
  let key := Hash.bucketNumber "a" 4
  let record := (SourceRecord.ofResource "a").envelope (doubleTask 7)
  let flying :=
    ((MemoryQueue.empty.publish "double.again" key record).2.claim "double.again" key 1).2
  ((flying.publish "double.relay" key record).2.publish "single.relay" 0 record).2

def crowdedPlant : MemoryPlant (Timed Unit) := ⟨crowdedQueue, .empty, Timed.start .epoch ()⟩

theorem drain_empties_crowded :
    ([doubleTopology].flatMap Topology.topics).Nodup ∧
      ∃ q, (Runner.new [doubleTopology] 0 1).drain crowdedPlant = (.ok 2, q) ∧
        Runner.Emptied [doubleTopology] crowdedQueue 2 q.queue := by
  have distinct : ([doubleTopology].flatMap Topology.topics).Nodup := by decide
  obtain ⟨k, q, -, drained, emptied⟩ := Runner.drain_empties (p := crowdedPlant)
    Tracker.reliable_memory distinct 0 1 trivial
  have counted : ((Runner.new [doubleTopology] 0 1).drain crowdedPlant).1 = .ok 2 := by
    decide +kernel
  rw [drained, Except.ok.injEq] at counted
  subst counted
  exact ⟨distinct, q, drained, emptied⟩

end Conveyor
