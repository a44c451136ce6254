import Conveyor.Proofs.Runner.Log
import Conveyor.Proofs.Runner.Rounds
import Conveyor.Proofs.Submission.Others

/-!
# Plants that can be reached

What is done with a plant, down to its single calls, so that a plant is also reached in the middle
of an operation, or when a worker is stopped and leaves messages in flight.  However a plant was
reached, its messages stand on partitions of the topologies for which they were published; so none
waits where a runner of these topologies looks for it, once the runner has drained them.

* `Reached` — the plants that can be reached with some topologies, call by call.
* **`Reached.run`** — operations on these topologies lead from such a plant to another.
* `Runner.Serves` — a runner of some of the topologies.
* **`Reached.drain`** — a drain ends, and nothing waits any more on the topics of the runner.
-/

namespace Conveyor

variable {V : Type} {topologies : List (Topology V)}

/-! ## Calls -/

/-- A call publishes on a partition of one of some topologies, if it publishes anything. -/
def MemoryQueue.Call.Within (topologies : List (Topology V)) : MemoryQueue.Call → Prop
  | .publish topic partition _ => ∃ t ∈ topologies, topic ∈ t.topics ∧ partition < t.partitions
  | _ => True

/-- The plants that can be reached with some topologies: the stores are empty at first, and then
there are calls, of whoever works with the plant and in whatever order. -/
inductive Reached (topologies : List (Topology V)) : MemoryPlant V → Prop where
  | start (services : V) : Reached topologies ⟨.empty, .empty, services⟩
  | queue {p : MemoryPlant V} (h : Reached topologies p) (c : MemoryQueue.Call)
      (within : c.Within topologies) : Reached topologies { p with queue := c.after p.queue }
  | tracker {p : MemoryPlant V} (h : Reached topologies p) (c : Tracker.Call) :
      Reached topologies (p.told c)
  | services {p : MemoryPlant V} (h : Reached topologies p) (services : V) :
      Reached topologies { p with services := services }

namespace MemoryQueue

/-- A call publishes a message at a place, or keeps the places of messages. -/
theorem Call.place_of_mem {c : Call} {q : MemoryQueue} {m : StoredMessage}
    (mem : m ∈ (c.after q).messages) :
    (∃ m' ∈ q.messages, m'.topic = m.topic ∧ m'.partition = m.partition) ∨
      ∃ e, c = .publish m.topic m.partition e := by
  cases c with
  | publish topic partition e =>
    rcases List.mem_append.1 mem with before | new
    · exact .inl ⟨m, before, rfl, rfl⟩
    · obtain rfl := List.mem_singleton.1 new
      exact .inr ⟨e, rfl⟩
  | claim topic partition limit =>
    rw [after, messages_claim] at mem
    obtain ⟨m', before, rfl⟩ := List.mem_map.1 mem
    refine .inl ⟨m', before, ?_⟩
    split <;> exact ⟨rfl, rfl⟩
  | ack id => exact .inl ⟨m, List.mem_of_mem_filter mem, rfl, rfl⟩
  | release id =>
    obtain ⟨m', before, rfl⟩ := List.mem_map.1 mem
    refine .inl ⟨m', before, ?_⟩
    split <;> exact ⟨rfl, rfl⟩
  | recover topic =>
    obtain ⟨m', before, rfl⟩ := List.mem_map.1 mem
    refine .inl ⟨m', before, ?_⟩
    split <;> exact ⟨rfl, rfl⟩
  | outstanding topic => exact .inl ⟨m, mem, rfl, rfl⟩

end MemoryQueue

/-- **Messages stand on partitions** of the topologies. -/
theorem Reached.place {p : MemoryPlant V} (h : Reached topologies p) :
    ∀ m ∈ p.queue.messages, ∃ t ∈ topologies, m.topic ∈ t.topics ∧ m.partition < t.partitions := by
  induction h with
  | start services => exact fun m mem => absurd mem List.not_mem_nil
  | queue h c within ih =>
    intro m mem
    rcases MemoryQueue.Call.place_of_mem mem with ⟨m', before, topic, partition⟩ | ⟨e, rfl⟩
    · rw [← topic, ← partition]
      exact ih m' before
    · exact within
  | tracker h c ih => exact ih
  | services h v ih => exact ih

/-! ## Operations -/

/-- An operation on some topologies: a submission to one of them, or a poll of a worker of one. -/
def Operation.Within (topologies : List (Topology V)) : Operation V → Prop
  | .submit s task => ∀ t, s.topologies.get? task.topology = some t → t ∈ topologies
  | .poll w => w.topology ∈ topologies ∧ ∀ topic, w.next = some topic → topic ∈ w.topology.topics
  | _ => True

theorem Topology.entryTopic_mem (t : Topology V) : t.entryTopic ∈ t.topics := by
  obtain ⟨stage, rest, stages, entry⟩ := t.exists_entry
  rw [topics, stages, entry]
  exact List.mem_map.2 ⟨stage, List.mem_cons_self, rfl⟩

namespace Reached

variable [Clock V] {p p' : MemoryPlant V} {w : Worker V} {d : Delivery}

theorem handles (h : Reached topologies p) (within : Operation.Within topologies (.poll w))
    (handles : Worker.Handles w d p p') : Reached topologies p' := by
  cases handles with
  | void => exact h.queue (.ack d.id) trivial
  | @onward topic e services live run next =>
    have place : (MemoryQueue.Call.publish topic (w.topology.partitionFor e) e).Within topologies :=
      ⟨w.topology, within.1, within.2 topic next, w.topology.partitionFor_lt e⟩
    exact ((h.queue _ place).queue (.ack d.id) trivial).services services
  | @ended outcome services live run leaves =>
    have told := h.tracker (Worker.ending (Clock.now services) d.envelope.taskId outcome)
    exact (told.queue (.ack d.id) trivial).services services

/-- A worker on the topologies leads from such a plant to another. -/
theorem keeps (within : Operation.Within topologies (.poll w)) :
    w.Keeps fun _ => Reached topologies where
  claim _ _ h := h.queue (.claim w.topic w.partition w.batch) trivial
  handle _ _ _ _ h _ _ _ handles := h.handles within handles

theorem report {α : Type} {x : Timestamp → Action MemoryTracker StoreError α}
    (h : Reached topologies p) (c : Tracker.Call) {change : Tracker.Change}
    {form : α → Tracker.Answer} (same : c.run = form <$> x (Clock.now p))
    (does : c.change? = some change) : Reached topologies (Plant.report x p).2 := by
  obtain ⟨a, told⟩ := Plant.report_of_map p same does
  rw [told]
  exact h.tracker c

/-- **An operation on the topologies** leads from a plant that can be reached to another. -/
theorem run (h : Reached topologies p) {op : Operation V} (within : op.Within topologies) :
    Reached topologies (op.run p) := by
  cases op with
  | submit s task =>
    refine Submitter.keeps_submit task (fun p c _ h => h.tracker c) (fun p v h => h.services v) s
      (fun topology p r found h => h.queue (.publish ..) ?_) p h
    exact ⟨topology, within topology found, topology.entryTopic_mem, topology.partitionFor_lt _⟩
  | poll w => exact (keeps within).poll (n := 0) h
  | dropTask id reason => exact h.report (.dropTask (Clock.now p) id reason) rfl rfl
  | failTask id reason => exact h.report (.failTask (Clock.now p) id reason) rfl rfl
  | fatal id reason => exact h.report (.fatal (Clock.now p) id reason) rfl rfl
  | sweep registry =>
    exact sweep_induction (I := Reached topologies) registry (fun p v h => h.services v)
      (fun p now id reason h => h.tracker _) h
  | elapse change => exact h.services _

end Reached

theorem reached_after [Clock V] (start : V) {history : List (Operation V)}
    (within : ∀ op ∈ history, op.Within topologies) :
    Reached topologies (plantAfter start history) := by
  induction history with
  | nil => exact .start start
  | cons op earlier ih =>
    obtain ⟨here, before⟩ := List.forall_mem_cons.1 within
    exact (ih before).run here

/-! ## Runners -/

/-- A runner of some of the topologies; those that it does not run have no topic in common with
it. -/
def Runner.Serves (r : Runner V) (topologies : List (Topology V)) : Prop :=
  ∃ own interval batch, r = Runner.new own interval batch ∧ (∀ t ∈ own, t ∈ topologies) ∧
    ∀ t ∈ topologies, t ∈ own ∨ ∀ topic ∈ t.topics, topic ∉ r.topics

namespace Runner.Serves

variable {r : Runner V}

theorem within (h : r.Serves topologies) :
    ∀ w ∈ r.workers, Operation.Within topologies (.poll w) := by
  obtain ⟨own, interval, batch, rfl, sub, -⟩ := h
  intro w mem
  obtain ⟨topology, before, after, stages, -, next⟩ := mem_workers_new mem
  refine ⟨sub _ topology, fun topic handsOn => ?_⟩
  rw [next] at handsOn
  obtain ⟨stage, first, rfl⟩ := Option.map_eq_some_iff.1 handsOn
  refine List.mem_map.2 ⟨stage, ?_, rfl⟩
  rw [stages]
  exact List.mem_append_right _ (List.mem_cons_of_mem _ (List.mem_of_mem_head? first))

/-- Where one of the topologies shares a topic with the runner, every partition has a worker. -/
theorem exists_worker (h : r.Serves topologies) {t : Topology V} (mem : t ∈ topologies)
    {topic : String} (own : topic ∈ t.topics) (here : topic ∈ r.topics) {partition : Nat}
    (lt : partition < t.partitions) :
    ∃ w ∈ r.workers, w.topic = topic ∧ w.partition = partition := by
  obtain ⟨served, interval, batch, rfl, -, apart⟩ := h
  have runs : t ∈ served := (apart t mem).resolve_right fun none => none topic own here
  obtain ⟨stage, there, rfl⟩ := List.mem_map.1 own
  exact Runner.exists_worker runs there lt interval batch

end Runner.Serves

namespace Reached

/-- When the workers of a runner find nothing, nothing waits on its topics. -/
theorem inFlight_of_idle {p : MemoryPlant V} (h : Reached topologies p) {r : Runner V}
    (serves : r.Serves topologies) (idle : ∀ w ∈ r.workers, w.batchOf p = []) :
    ∀ m ∈ p.queue.messages, m.topic ∈ r.topics → m.inFlight = true := by
  intro m mem here
  obtain ⟨t, known, own, lt⟩ := h.place m mem
  obtain ⟨w, worker, topic, partition⟩ := serves.exists_worker known own here lt
  by_contra landed
  have waits : m.isPendingOn w.topic w.partition = true := by
    simpa [StoredMessage.isPendingOn, topic, partition] using landed
  exact Worker.batchOf_eq_nil_iff.1 (idle w worker) ⟨m, mem, waits⟩

variable [Clock V]

theorem polled {p : MemoryPlant V} (h : Reached topologies p) {ws : List (Worker V)}
    (within : ∀ w ∈ ws, Operation.Within topologies (.poll w)) :
    Reached topologies (p.polled ws) :=
  Plant.polled_induction (fun w mem _ reached => reached.run (within w mem)) h

/-- **A drain** ends, and leaves nothing that waits on the topics of the runner. -/
theorem drain {p : MemoryPlant V} (h : Reached topologies p) {r : Runner V}
    (serves : r.Serves topologies) :
    ∃ k q, r.Drains p k q ∧ r.drain p = (.ok k, q) ∧ Reached topologies q ∧
      ∀ m ∈ q.queue.messages, m.topic ∈ r.topics → m.inFlight = true := by
  obtain ⟨own, interval, batch, new, -⟩ := id serves
  obtain ⟨k, drains, drained, idle⟩ := Runner.drain_eq own interval batch p
  rw [← new] at drains drained idle
  have reached : Reached topologies (p.polled (r.polls p)) :=
    h.polled fun w mem => serves.within w (Runner.mem_pollsWithin mem)
  exact ⟨k, _, drains, drained, reached, reached.inFlight_of_idle serves idle⟩

end Reached

end Conveyor
