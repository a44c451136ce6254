import Conveyor.Proofs.Runner.Log
import Conveyor.Proofs.Topology.Topics

/-!
# Records of one routing key

The routing key of a record chooses its partition, the same on every topic.  So if stages leave the
key as it is, two records of one key travel the same partitions, and since the messages of a
partition are visited in order and handed on in order, neither overtakes the other.

* `Stage.KeepsKey` — that a stage leaves the routing key of a record as it is.
* `Operation.LeavesTopics` — that an operation leaves the topics of a topology to it.
* `Travels` — the messages in which a record travels, stage by stage, read off a log.
* **`Travels.place`** — the topic and the partition on which a record travels.
* **`key_order`** — records of one key keep their order, on every stage and after every history.
-/

namespace Conveyor

variable {V : Type}

/-! ## Keys -/

namespace Stage

/-- A stage leaves the routing key of every record as it is that it hands on. -/
def KeepsKey (stage : Stage V) : Prop :=
  ∀ e v e', (stage.process e v).1 = .ok (.forward e') → e'.routingKey = e.routingKey

theorem KeepsKey.run {stage : Stage V} (keeps : stage.KeepsKey) {e e' : Envelope} {v : V}
    (forward : (stage.run e v).1 = .forward e') : e'.routingKey = e.routingKey := by
  refine keeps e v e' ?_
  rw [Stage.run] at forward
  cases processed : stage.process e v with
  | mk answer v' =>
    rw [processed] at forward
    cases answer with
    | ok outcome => exact congrArg Except.ok forward
    | error err => cases forward

end Stage

namespace Topology

theorem partitionFor_of_key (t : Topology V) {e e' : Envelope}
    (same : e'.routingKey = e.routingKey) : t.partitionFor e' = t.partitionFor e := by
  rw [partitionFor, partitionFor, Envelope.bucketNumber, Envelope.bucketNumber, same]

end Topology

/-! ## What a topology has to itself -/

/-- An operation leaves the topics of a topology to it: what is submitted to another topology does
not enter there, and nobody claims or publishes there but the workers of the topology. -/
def Operation.LeavesTopics (t : Topology V) : Operation V → Prop
  | submit s task => ∀ topology, s.topologies.get? task.topology = some topology →
      topology = t ∨ topology.entryTopic ∉ t.topics
  | poll w => (∃ index partition batch, Worker.new? t index partition batch = some w) ∨
      (w.topic ∉ t.topics ∧ ∀ topic, w.next = some topic → topic ∉ t.topics)
  | _ => True

/-- What is logged of the topics of a topology is as the topology has it. -/
def Entry.Fits (t : Topology V) : Entry → Prop
  | entered m => m.topic ∈ t.topics → m.partition = t.partitionFor m.envelope
  | visited v => ∀ i m, t.topic? i = some v.message.topic → v.onward = some m →
      m.envelope.routingKey = v.message.envelope.routingKey ∧
        t.topic? (i + 1) = some m.topic ∧ m.partition = t.partitionFor m.envelope

/-- **What an operation logs** fits a topology whose topics it leaves alone. -/
theorem Operation.fits [Clock V] {t : Topology V} (keeps : ∀ stage ∈ t.stages, stage.KeepsKey)
    {op : Operation V} (leaves : op.LeavesTopics t) {p : MemoryPlant V} {entry : Entry}
    (mem : entry ∈ op.entries p) : entry.Fits t := by
  cases op with
  | submit s task =>
    obtain ⟨m, gained, rfl⟩ := List.mem_map.1 mem
    intro own
    cases found : s.topologies.get? task.topology with
    | none =>
      rw [Submitter.submit_of_unknown found, MemoryQueue.gained_self] at gained
      cases gained
    | some topology =>
      obtain ⟨records, queue⟩ := s.publishes_submit found p
      rw [queue] at gained
      obtain ⟨there, fresh⟩ := List.mem_filter.1 gained
      obtain ⟨stored, stands, rfl⟩ := List.mem_map.1 there
      rcases mem_publishing topology task records p.queue stands with old | ⟨-, topic, place, -⟩
      · have := p.queue.given _ (List.mem_map_of_mem old)
        have fresh := of_decide_eq_true fresh
        exact absurd fresh (Int.not_lt.2 this)
      · rcases leaves topology found with rfl | apart
        · exact place
        · rw [← topic] at apart
          exact absurd own apart
  | poll w =>
    obtain ⟨v, visit, rfl⟩ := List.mem_map.1 mem
    intro i m topic onward
    obtain ⟨s, taken, same⟩ := w.taken_of_visit visit
    have here : v.message.topic = w.topic := by
      have waits := (MemoryQueue.mem_of_taken taken).2
      simp only [StoredMessage.isPendingOn, Bool.and_eq_true, decide_eq_true_eq] at waits
      rw [← same]
      exact waits.2
    rw [here] at topic
    obtain ⟨-, -, ⟨next, place⟩, services, forward⟩ := (w.visits_poll p).onward v visit m onward
    rcases leaves with ⟨index, partition, batch, new⟩ | ⟨apart, -⟩
    · obtain ⟨stage, found, rfl⟩ := Option.map_eq_some_iff.1 new
      have own : t.topic? index = some (stageTopic t.name stage.name) := by
        rw [Topology.topic?, found]
        rfl
      obtain rfl : i = index := Topology.topic?_inj topic own
      exact ⟨(keeps stage (List.mem_of_getElem? found)).run forward, next, place⟩
    · exact absurd (Topology.mem_topics topic) apart
  | _ => cases mem

/-! ## The way of a record -/

/-- The messages in which a record travels that has entered as `first`: the one that waits for the
stage at an index, if the record gets there. -/
inductive Travels (log : List Entry) (first : Publication) : Nat → Publication → Prop where
  | enters (mem : .entered first ∈ log) : Travels log first 0 first
  | goesOn {i : Nat} {m n : Publication} (so_far : Travels log first i m)
      (visit : .visited ⟨m, some n⟩ ∈ log) : Travels log first (i + 1) n

/-- **A record travels** on the topics of its topology, stage by stage, and always on the partition
of its key. -/
theorem Travels.place {t : Topology V} {log : List Entry} (fits : ∀ entry ∈ log, entry.Fits t)
    {first m : Publication} {i : Nat} (entry : first.topic = t.entryTopic)
    (h : Travels log first i m) :
    t.topic? i = some m.topic ∧ m.partition = t.partitionFor first.envelope ∧
      m.envelope.routingKey = first.envelope.routingKey := by
  induction h with
  | enters mem =>
    have topic : t.topic? 0 = some first.topic := by
      rw [entry, t.topic?_zero]
    have fits : (Entry.entered first).Fits t := fits _ mem
    exact ⟨topic, fits (Topology.mem_topics topic), rfl⟩
  | goesOn so_far visit ih =>
    obtain ⟨topic, -, key⟩ := ih
    have fits : (Entry.visited ⟨_, some _⟩).Fits t := fits _ visit
    obtain ⟨same, next, place⟩ := fits _ _ topic rfl
    have key := same.trans key
    exact ⟨next, place.trans (t.partitionFor_of_key key), key⟩

/-! ## Order -/

/-- One of two entries comes before the other, and never after it. -/
def Before (log : List Entry) (a b : Entry) : Prop :=
  [a, b].Sublist log ∧ ¬ [b, a].Sublist log

/-- Two members of a list stand there one before the other. -/
theorem pair_sublist {α : Type} {a b : α} {l : List α} (apart : a ≠ b) (ha : a ∈ l) (hb : b ∈ l) :
    [a, b].Sublist l ∨ [b, a].Sublist l := by
  induction l with
  | nil => cases ha
  | cons c l ih =>
    rcases List.mem_cons.1 ha with rfl | first
    · have there := (List.mem_cons.1 hb).resolve_left (Ne.symm apart)
      exact .inl ((List.singleton_sublist.2 there).cons_cons a)
    · rcases List.mem_cons.1 hb with rfl | second
      · exact .inr ((List.singleton_sublist.2 first).cons_cons b)
      · exact (ih first second).imp (List.Sublist.cons c) (List.Sublist.cons c)

theorem precedes_of_sublist {log : List Entry} (rising : log.Pairwise Entry.Precedes) {a b : Entry}
    (h : [a, b].Sublist log) : a.Precedes b := by
  have pair := rising.sublist h
  rw [List.pairwise_pair] at pair
  exact pair

/-- **Of two messages of one partition** the one of the lower number is visited first. -/
theorem before_of_lt {log : List Entry} (rising : log.Pairwise Entry.Precedes) {v u : Visit}
    (hv : .visited v ∈ log) (hu : .visited u ∈ log) (topic : v.message.topic = u.message.topic)
    (partition : v.message.partition = u.message.partition)
    (less : v.message.id.value < u.message.id.value) : Before log (.visited v) (.visited u) := by
  have apart : Entry.visited v ≠ .visited u := by
    intro same
    rw [Entry.visited.inj same] at less
    exact Int.lt_irrefl _ less
  have never : ¬ [Entry.visited u, .visited v].Sublist log := by
    intro after
    have order := (precedes_of_sublist rising after).1 topic.symm partition.symm
    omega
  exact ⟨(pair_sublist apart hv hu).resolve_right never, never⟩

/-- How two records that have entered a topology, the one before the other, travel through it. -/
structure KeyOrder (t : Topology V) (log : List Entry) (first second : Publication) : Prop where
  /-- Both travel on the topics of their stages, and on every one on the same partition. -/
  place : ∀ i m, Travels log first i m ∨ Travels log second i m →
    t.topic? i = some m.topic ∧ m.partition = t.partitionFor first.envelope
  /-- On every topic that both get to, the first is published first. -/
  published : ∀ i m n, Travels log first i m → Travels log second i n → m.id.value < n.id.value
  /-- Every stage that deals with both deals with the first one first. -/
  visited : ∀ i m n x y, Travels log first i m → Travels log second i n →
    .visited ⟨m, x⟩ ∈ log → .visited ⟨n, y⟩ ∈ log →
      Before log (.visited ⟨m, x⟩) (.visited ⟨n, y⟩)
  /-- And if it hands both on, it publishes the first one first. -/
  handedOn : ∀ i m n m' n', Travels log first i m → Travels log second i n →
    .visited ⟨m, some m'⟩ ∈ log → .visited ⟨n, some n'⟩ ∈ log → m'.id.value < n'.id.value

/-- **Records of one routing key keep their order** in a log that is in order and fits their
topology. -/
theorem KeyOrder.of_rising {t : Topology V} {log : List Entry} (rising : log.Pairwise Entry.Precedes)
    (fits : ∀ entry ∈ log, entry.Fits t) {first second : Publication}
    (before : [Entry.entered first, .entered second].Sublist log)
    (entry : first.topic = t.entryTopic) (entry' : second.topic = t.entryTopic)
    (key : first.envelope.routingKey = second.envelope.routingKey) :
    KeyOrder t log first second := by
  have same : t.partitionFor second.envelope = t.partitionFor first.envelope :=
    t.partitionFor_of_key key.symm
  have place : ∀ i m, Travels log first i m ∨ Travels log second i m →
      t.topic? i = some m.topic ∧ m.partition = t.partitionFor first.envelope := by
    rintro i m (travels | travels)
    · obtain ⟨topic, partition, -⟩ := travels.place fits entry
      exact ⟨topic, partition⟩
    · obtain ⟨topic, partition, -⟩ := travels.place fits entry'
      exact ⟨topic, partition.trans same⟩
  have visited : ∀ i m n x y, Travels log first i m → Travels log second i n →
      m.id.value < n.id.value → .visited ⟨m, x⟩ ∈ log → .visited ⟨n, y⟩ ∈ log →
        Before log (.visited ⟨m, x⟩) (.visited ⟨n, y⟩) := by
    intro i m n x y one other less here there
    obtain ⟨topic, partition⟩ := place i m (.inl one)
    obtain ⟨topic', partition'⟩ := place i n (.inr other)
    have topics : m.topic = n.topic := Option.some.inj (topic.symm.trans topic')
    exact before_of_lt rising here there topics (partition.trans partition'.symm) less
  -- from stage to stage: what is published first is visited first, and so handed on first
  have published : ∀ i m n, Travels log first i m → Travels log second i n →
      m.id.value < n.id.value := by
    intro i
    induction i with
    | zero =>
      intro m n one other
      cases one
      cases other
      exact precedes_of_sublist rising before
    | succ i ih =>
      intro m n one other
      cases one with
      | goesOn one here =>
        cases other with
        | goesOn other there =>
          have order := visited i _ _ _ _ one other (ih _ _ one other) here there
          exact (precedes_of_sublist rising order.1).2 m n rfl rfl
  constructor
  · exact place
  · exact published
  · exact fun i m n x y one other => visited i m n x y one other (published i m n one other)
  · exact fun i m n m' n' one other here there =>
      published (i + 1) m' n' (one.goesOn here) (other.goesOn there)

/-- **Records of one routing key keep their order**, whatever is submitted, of however many tasks,
and in whatever order workers poll. -/
theorem key_order [Clock V] (t : Topology V) (keeps : ∀ stage ∈ t.stages, stage.KeepsKey) (start : V)
    (history : List (Operation V)) (leaves : ∀ op ∈ history, op.LeavesTopics t)
    (first second : Publication)
    (before : [Entry.entered first, .entered second].Sublist (logAfter start history))
    (entry : first.topic = t.entryTopic) (entry' : second.topic = t.entryTopic)
    (key : first.envelope.routingKey = second.envelope.routingKey) :
    KeyOrder t (logAfter start history) first second := by
  refine .of_rising (ordered_after start history).rising (fun logged mem => ?_) before entry entry' key
  obtain ⟨op, done, p, mem⟩ := mem_logAfter mem
  exact Operation.fits keeps (leaves op done) mem

/-! ## Two records of one key -/

/-- Two stages that hand every record on as it is. -/
def doubleTopology : Topology (Timed Unit) where
  name := "double"
  partitions := 4
  chained := false
  entries := [⟨relay, ⟨none, Dict.empty⟩⟩, ⟨{ relay with name := "again" }, ⟨none, Dict.empty⟩⟩]
  entries_ne_nil := List.cons_ne_nil _ _
  partitions_pos := by decide
  names_nodup := by decide

/-- The worker of a stage on the partition of the key `a`. -/
def doubleWorker (stage : Stage (Timed Unit)) (next : Option String) : Worker (Timed Unit) where
  topology := doubleTopology
  stage := stage
  topic := stageTopic "double" stage.name
  next := next
  partition := Hash.bucketNumber "a" 4
  batch := 1
  batch_pos := Nat.one_pos

def doubleTask (id : Int) : Task :=
  (Task.new ⟨id⟩ "one record" "double").withInput (.resources ["a"])

def doubleSubmitter : Submitter (Timed Unit) where
  topologies := Dict.empty.insert "double" doubleTopology
  source := listedResources
  policy := .none
  owner := none

/-- Two tasks are submitted, with a record each, and the workers of both stages poll in turn. -/
def doubleHistory : List (Operation (Timed Unit)) :=
  [.poll (doubleWorker { relay with name := "again" } none),
    .poll (doubleWorker { relay with name := "again" } none),
    .poll (doubleWorker relay (some "double.again")),
    .poll (doubleWorker { relay with name := "again" } none),
    .poll (doubleWorker relay (some "double.again")),
    .submit doubleSubmitter (doubleTask 8), .submit doubleSubmitter (doubleTask 7)]

def doubleRecord (number task : Int) : Publication :=
  ⟨⟨number⟩, "double.relay", Hash.bucketNumber "a" 4,
    (SourceRecord.ofResource "a").envelope (doubleTask task)⟩

/-- The record of the first task is dealt with before that of the second, on both stages. -/
theorem key_order_double :
    (∀ stage ∈ doubleTopology.stages, stage.KeepsKey) ∧
      (∀ op ∈ doubleHistory, op.LeavesTopics doubleTopology) ∧
      [Entry.entered (doubleRecord 1 7), .entered (doubleRecord 2 8)].Sublist
        (logAfter (Timed.start .epoch ()) doubleHistory) ∧
      (logAfter (Timed.start .epoch ()) doubleHistory).length = 6 ∧
      KeyOrder doubleTopology (logAfter (Timed.start .epoch ()) doubleHistory)
        (doubleRecord 1 7) (doubleRecord 2 8) := by
  have keeps : ∀ stage ∈ doubleTopology.stages, stage.KeepsKey := by
    intro stage mem e v e' forward
    simp only [Topology.stages, doubleTopology, List.map_cons, List.map_nil, List.mem_cons,
      List.not_mem_nil, or_false] at mem
    rcases mem with rfl | rfl
    · cases forward
      rfl
    · cases forward
      rfl
  have leaves : ∀ op ∈ doubleHistory, op.LeavesTopics doubleTopology := by
    have submits : ∀ id, (Operation.submit doubleSubmitter (doubleTask id)).LeavesTopics
        doubleTopology := by
      intro id topology found
      have only : doubleSubmitter.topologies.get? (doubleTask id).topology
          = some doubleTopology := rfl
      rw [only] at found
      exact .inl (Option.some.inj found).symm
    have first : (Operation.poll (doubleWorker relay (some "double.again"))).LeavesTopics
        doubleTopology := .inl ⟨0, Hash.bucketNumber "a" 4, 1, rfl⟩
    have second : (Operation.poll (doubleWorker { relay with name := "again" } none)).LeavesTopics
        doubleTopology := .inl ⟨1, Hash.bucketNumber "a" 4, 1, rfl⟩
    intro op mem
    simp only [doubleHistory, List.mem_cons, List.not_mem_nil, or_false] at mem
    rcases mem with rfl | rfl | rfl | rfl | rfl | rfl | rfl
    · exact second
    · exact second
    · exact first
    · exact second
    · exact first
    · exact submits 8
    · exact submits 7
  have before : [Entry.entered (doubleRecord 1 7), .entered (doubleRecord 2 8)].Sublist
      (logAfter (Timed.start .epoch ()) doubleHistory) := by decide +kernel
  exact ⟨keeps, leaves, before, by decide +kernel,
    key_order doubleTopology keeps _ doubleHistory leaves _ _ before rfl rfl rfl⟩

end Conveyor
