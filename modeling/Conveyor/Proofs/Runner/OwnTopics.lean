import Conveyor.Proofs.Queue.Topics
import Conveyor.Proofs.Runner.Conservation
import Conveyor.Proofs.Runner.Rounds
import Conveyor.Proofs.Topology.Topics

/-!
# Whose messages a worker claims

Each worker claims the messages of one topic, and nothing else tells the messages of its stage from
those of others.  So the workers of several topologies keep to the messages of their own stages
exactly as long as no two stages have the same topic, that is if no topology goes on where another
one ends.  Different names are not enough for that.

* `Worker.WorksAt` — the workers of a stage; `Worker.Claims` — that a worker claims a message.
* `SeparateTopics` — that different stages have different topics.
* `ClaimedByOwn` — that what was published for a stage is claimed by its own workers only.
* **`own_topics`** — both of them, on queues of either kind, in terms of the names.
* `shared_topic` — two topologies of different names that wait on one topic.
-/

namespace Conveyor

open MemoryQueue (Call)

variable {Q T N V : Type} {t t' : Topology V} {topologies : List (Topology V)} {i i' : Nat}
  {topic : String}

/-- A plant after some calls on its queue. -/
def Plant.afterCalls [MessageQueue Q] (p : Plant Q T N V) (calls : List Call) : Plant Q T N V :=
  { p with queue := queueAfterAll p.queue calls }

/-! ## Workers and their stages -/

namespace Worker

variable {w : Worker V}

/-- A worker is one of those of the stage at an index. -/
def WorksAt (w : Worker V) (t : Topology V) (i : Nat) : Prop :=
  ∃ partition batch, Worker.new? t i partition batch = some w

theorem WorksAt.topology_eq (h : w.WorksAt t i) : w.topology = t := by
  obtain ⟨partition, batch, new⟩ := h
  obtain ⟨stage, -, rfl⟩ := Option.map_eq_some_iff.1 new
  rfl

theorem WorksAt.topic_eq (h : w.WorksAt t i) : t.topic? i = some w.topic := by
  obtain ⟨partition, batch, new⟩ := h
  obtain ⟨stage, found, rfl⟩ := Option.map_eq_some_iff.1 new
  rw [Topology.topic?, found]
  rfl

/-- The next claim of a worker delivers the message of a number. -/
def Claims [MessageQueue Q] (w : Worker V) (p : Plant Q T N V) (id : MessageId) : Prop :=
  ∃ batch, (w.claim p).1 = .ok batch ∧ ∃ d ∈ batch, d.id = id

/-- A message that is alone in the queue is claimed by every worker on its topic and partition. -/
theorem claims_alone [MessageQueue Q] {start : Plant Q T N V} (sorts : SortsByTopic start.queue)
    {e : Envelope} (fits : e.taskId.Fits) {partition : Nat} (waits : w.topic = topic)
    (place : w.partition = partition) :
    w.Claims (start.afterCalls [.publish topic partition e]) ⟨1⟩ := by
  refine ⟨[⟨⟨1⟩, topic, partition, e, 1⟩], ?_, _, List.mem_singleton_self _, rfl⟩
  show (MessageQueue.claim w.topic w.partition w.batch _).1 = _
  rw [waits, place]
  exact sorts.alone topic partition w.batch e w.batch_pos fits

end Worker

namespace Runner

theorem exists_worksAt {interval : Millis} {batch : Nat} {w : Worker V}
    (mem : w ∈ (Runner.new topologies interval batch).workers) :
    ∃ t ∈ topologies, ∃ i, w.WorksAt t i := by
  obtain ⟨t, there, i, partition, new⟩ := exists_new?_of_mem mem
  exact ⟨t, there, i, partition, batch, new⟩

/-- Every stage has a worker on its first partition. -/
theorem exists_first_worker (mem : t ∈ topologies) (there : t.topic? i = some topic)
    (interval : Millis) (batch : Nat) :
    ∃ w ∈ (Runner.new topologies interval batch).workers,
      w.WorksAt t i ∧ w.topic = topic ∧ w.partition = 0 := by
  obtain ⟨w, here, place⟩ := exists_workerAt there batch t.partitions_pos
  obtain ⟨partition, -, new⟩ := List.mem_filterMap.1 here
  obtain ⟨stage, found, -⟩ := Option.map_eq_some_iff.1 there
  have inside : i < t.entries.length := by
    have inside := (List.getElem?_eq_some_iff.1 found).1
    rwa [Topology.stages, List.length_map] at inside
  exact ⟨w, List.mem_flatMap.2 ⟨t, mem, List.mem_flatMap.2 ⟨i, List.mem_range.2 inside, here⟩⟩,
    ⟨partition, batch, new⟩, place⟩

end Runner

/-! ## Stages and their messages -/

/-- Different stages, of the same topology or of different ones, have different topics. -/
def SeparateTopics (topologies : List (Topology V)) : Prop :=
  ∀ t ∈ topologies, ∀ t' ∈ topologies, ∀ i i' topic,
    t.topic? i = some topic → t'.topic? i' = some topic → t = t' ∧ i = i'

/-- Whatever is called on the queue, a message that was published on the topic of a stage is claimed
by the workers of that stage only. -/
def ClaimedByOwn [MessageQueue Q] (topologies : List (Topology V)) (start : Plant Q T N V) : Prop :=
  ∀ (calls : List Call) (interval : Millis) (batch : Nat),
    ∀ w ∈ (Runner.new topologies interval batch).workers, ∀ m ∈ publicationsOf calls,
      w.Claims (start.afterCalls calls) m.id →
        ∀ t ∈ topologies, ∀ i, t.topic? i = some m.topic → w.WorksAt t i

theorem separateTopics_iff (named : (topologies.map (·.name)).Nodup) :
    SeparateTopics topologies ↔ Topology.Uncrossed topologies := by
  constructor
  · intro separate t mem t' mem' crosses
    have names := crosses.name_ne
    obtain ⟨topic, here, there⟩ := (Topology.exists_shared_iff names).2 (.inl crosses)
    obtain ⟨i, at_⟩ := List.mem_iff_getElem?.1 here
    obtain ⟨i', at'⟩ := List.mem_iff_getElem?.1 there
    rw [Topology.topics_getElem?] at at_ at'
    exact names (congrArg Topology.name (separate t mem t' mem' i i' topic at_ at').1)
  · intro clear t mem t' mem' i i' topic here there
    by_cases names : t.name = t'.name
    · obtain rfl : t = t' := List.inj_on_of_nodup_map named mem mem' names
      exact ⟨rfl, Topology.topic?_inj here there⟩
    · rcases (Topology.exists_shared_iff names).1
        ⟨topic, Topology.mem_topics here, Topology.mem_topics there⟩ with crosses | crosses
      · exact absurd crosses (clear t mem t' mem')
      · exact absurd crosses (clear t' mem' t mem)

/-- On a queue that sorts messages by their topics, workers keep to their own messages if and only
if their stages have different topics. -/
theorem claimedByOwn_iff [MessageQueue Q] {start : Plant Q T N V}
    (sorts : SortsByTopic start.queue) :
    ClaimedByOwn topologies start ↔ SeparateTopics topologies := by
  constructor
  · intro owned t mem t' mem' i i' topic here there
    -- a message for the one stage is claimed by the worker of the other, hence by its own
    obtain ⟨w, worker, works, waits, first⟩ := Runner.exists_first_worker mem' there 0 1
    let e : Envelope := .new ⟨0⟩ "" ""
    have claims := w.claims_alone (e := e) sorts (by decide) waits first
    have own := owned [.publish topic 0 e] 0 1 w worker ⟨⟨1⟩, topic, 0, e⟩
      (List.mem_singleton_self _) claims t mem i here
    obtain rfl : t = t' := own.topology_eq.symm.trans works.topology_eq
    exact ⟨rfl, Topology.topic?_inj here there⟩
  · intro separate calls interval batch w worker m published claims t mem i here
    obtain ⟨t', mem', i', works⟩ := Runner.exists_worksAt worker
    obtain ⟨delivered, claimed, d, there, same⟩ := claims
    have own : m.topic = w.topic := sorts.own calls _ _ _ delivered claimed d there m published same
    rw [own] at here
    obtain ⟨rfl, rfl⟩ := separate t mem t' mem' i i' w.topic here works.topic_eq
    exact works

/-- **Different stages have different topics**, and workers claim the messages of their own stages
only, if and only if no topology of the given names crosses another; so it is where the names of the
stages have no dots, or those of the topologies. -/
theorem own_topics (topologies : List (Topology V)) (named : (topologies.map (·.name)).Nodup)
    (tracker : Tracker T N) (services : V) :
    (SeparateTopics topologies ↔ Topology.Uncrossed topologies) ∧
      (ClaimedByOwn topologies (⟨MemoryQueue.empty, tracker, services⟩ : Plant _ T N V) ↔
        Topology.Uncrossed topologies) ∧
      (ClaimedByOwn topologies (⟨(Table.empty : TableQueue), tracker, services⟩ : Plant _ T N V) ↔
        Topology.Uncrossed topologies) ∧
      ((topologies.flatMap Topology.topics).Nodup ↔ Topology.Uncrossed topologies) ∧
      ((∀ t ∈ topologies, ∀ stage ∈ t.stages, '.' ∉ stage.name.toList) ∨
        (∀ t ∈ topologies, '.' ∉ t.name.toList) → Topology.Uncrossed topologies) :=
  have separate := separateTopics_iff named
  ⟨separate, (claimedByOwn_iff sortsByTopic_memory).trans separate,
    (claimedByOwn_iff sortsByTopic_table).trans separate, Topology.nodup_topics_iff named,
    Topology.uncrossed_of_plain⟩

/-- A topology of a stage that hands every record on as it is. -/
def copying (name stage : String) : Topology (Timed Unit) where
  name := name
  partitions := 1
  chained := false
  entries := [⟨{ relay with name := stage }, ⟨none, Dict.empty⟩⟩]
  entries_ne_nil := List.cons_ne_nil _ _
  partitions_pos := Nat.one_pos
  names_nodup := List.nodup_singleton _

/-- A plant in which nothing has happened. -/
def blankPlant : MemoryPlant (Timed Unit) := ⟨.empty, ⟨.empty, .empty⟩, Timed.start .epoch ()⟩

/-- A topology may bear a topic of another one as its name. -/
theorem own_topics_copying :
    ([copying "copy" "relay", copying "copy.relay" "relay"].map (·.name)).Nodup ∧
      SeparateTopics [copying "copy" "relay", copying "copy.relay" "relay"] ∧
      ClaimedByOwn [copying "copy" "relay", copying "copy.relay" "relay"] blankPlant := by
  have named : ([copying "copy" "relay", copying "copy.relay" "relay"].map (·.name)).Nodup := by
    decide
  obtain ⟨separate, owned, -, -, plain⟩ :=
    own_topics _ named blankPlant.tracker blankPlant.services
  have clear := plain (.inl (by decide))
  exact ⟨named, separate.2 clear, owned.2 clear⟩

/-- **Two topologies on one topic**: the record of the first is claimed by the worker of the
second. -/
theorem shared_topic :
    ([copying "copy" "a.b", copying "copy.a" "b"].map (·.name)).Nodup ∧
      (copying "copy" "a.b").topic? 0 = some "copy.a.b" ∧
      (copying "copy.a" "b").topic? 0 = some "copy.a.b" ∧
      ¬ SeparateTopics [copying "copy" "a.b", copying "copy.a" "b"] ∧
      ∃ w ∈ (Runner.new [copying "copy" "a.b", copying "copy.a" "b"] 1 1).workers,
        w.topology.name = "copy.a" ∧
        w.Claims (blankPlant.afterCalls [.publish "copy.a.b" 0 (.new ⟨1⟩ "task" "a")]) ⟨1⟩ := by
  have mem : copying "copy" "a.b" ∈ [copying "copy" "a.b", copying "copy.a" "b"] :=
    List.mem_cons_self
  have mem' : copying "copy.a" "b" ∈ [copying "copy" "a.b", copying "copy.a" "b"] :=
    List.mem_cons_of_mem _ List.mem_cons_self
  have here : (copying "copy" "a.b").topic? 0 = some "copy.a.b" := by decide
  have there : (copying "copy.a" "b").topic? 0 = some "copy.a.b" := by decide
  refine ⟨by decide, here, there, fun separate => ?_, ?_⟩
  · have same := (separate _ mem _ mem' 0 0 _ here there).1
    exact absurd (congrArg Topology.name same) (by decide)
  · obtain ⟨w, worker, works, waits, first⟩ := Runner.exists_first_worker mem' there 1 1
    exact ⟨w, worker, congrArg Topology.name works.topology_eq,
      w.claims_alone sortsByTopic_memory (by decide) waits first⟩

end Conveyor
