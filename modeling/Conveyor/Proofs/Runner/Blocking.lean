import Conveyor.Proofs.Runner.Emptying

/-!
# Records behind others that cannot be recorded

A message whose task cannot be looked up is given back, to the head of its partition, and it is
claimed again first.  A drain ends when a round acknowledges nothing, so a partition on which as
many such messages wait as a worker claims at once is left with whatever waits behind them.  Nothing
else is left.

* **`Runner.left_behind_lost`** — a record that a drain leaves waiting, although its task can be
  looked up, has a whole batch in front of it of tasks that cannot.
* `VeiledTasks` — progress records some of which cannot be looked up.
* `left_behind` — a plant in which one is.
-/

namespace Conveyor

/-- A message that a claim does not reach has a whole batch in front of it. -/
theorem MemoryQueue.length_taken {topic : String} {partition limit : Nat} {q : MemoryQueue}
    {m : StoredMessage} (mem : m ∈ q.messages) (waits : m.isPendingOn topic partition = true)
    (left : m ∉ taken topic partition limit q) :
    (taken topic partition limit q).length = limit := by
  rw [taken, List.length_take]
  refine Nat.min_eq_left (Nat.le_of_not_lt fun few => left ?_)
  rw [taken, List.take_of_length_le (Nat.le_of_lt few)]
  exact List.mem_filter.2 ⟨mem, waits⟩

namespace Runner

variable {T N V : Type} [TaskStore T] [NotificationSink N] [Clock V] {B : Set TaskId}
  {sound : Tracker T N → Prop}

/-- **A record that a drain leaves behind** although its task can be looked up: a whole batch waits
in front of it on its partition, all of tasks that cannot be looked up.  Where fewer of these wait,
they are all that is left. -/
theorem left_behind_lost (blind : Tracker.BlindTo B sound) {topologies : List (Topology V)}
    (distinct : (topologies.flatMap Topology.topics).Nodup) (interval : Millis) (batch : Nat)
    {p : Plant MemoryQueue T N V} (ok : sound p.tracker) :
    ∃ k q, (Runner.new topologies interval batch).Drains p k q ∧
      (Runner.new topologies interval batch).drain p = (.ok k, q) ∧
      ∀ t ∈ topologies, ∀ topic ∈ t.topics, ∀ partition < t.partitions, ∀ m ∈ q.queue.messages,
        m.isPendingOn topic partition = true → m.envelope.taskId ∉ B →
          (MemoryQueue.taken topic partition (max 1 batch) q.queue).length = max 1 batch ∧
          ∀ front ∈ MemoryQueue.taken topic partition (max 1 batch) q.queue,
            front.envelope.taskId ∈ B ∧ front.id.value < m.id.value := by
  obtain ⟨k, q, drains, drained, -, lost⟩ := exists_drains blind distinct interval batch ok
  refine ⟨k, q, drains, drained, fun t mem topic here partition lt m there waits found => ?_⟩
  have lost := lost t mem topic here partition lt
  have left : m ∉ MemoryQueue.taken topic partition (max 1 batch) q.queue :=
    fun took => found (lost m took)
  exact ⟨MemoryQueue.length_taken there waits left,
    fun front took => ⟨lost front took, MemoryQueue.lt_of_not_taken took there waits left⟩⟩

end Runner

/-! ## Tasks that cannot be looked up -/

/-- Progress records in memory, of which some cannot be looked up. -/
structure VeiledTasks (veiled : TaskId → Bool) where
  tasks : MemoryTasks

namespace VeiledTasks

variable {veiled : TaskId → Bool}

def tasksPart : Part (VeiledTasks veiled) MemoryTasks := ⟨tasks, fun t _ => ⟨t⟩⟩

instance : TaskStore (VeiledTasks veiled) where
  insert t := .on tasksPart (TaskStore.insert t)
  upsert t := .on tasksPart (TaskStore.upsert t)
  find id :=
    if veiled id then .fail (.deserialization "unknown task state")
    else .on tasksPart (TaskStore.find id)
  list states := .on tasksPart (TaskStore.list states)
  increment id counter := .on tasksPart (TaskStore.increment id counter)
  setExpected id n := .on tasksPart (TaskStore.setExpected id n)
  transition now id sources target description :=
    .on tasksPart (TaskStore.transition now id sources target description)
  recordFatal id reason := .on tasksPart (TaskStore.recordFatal id reason)
  complete now id := .on tasksPart (TaskStore.complete now id)

theorem find_eq (id : TaskId) (t : Tracker (VeiledTasks veiled) MemoryNotifications) :
    Tracker.find id t
      = (if veiled id then .error (.deserialization "unknown task state")
          else .ok (t.tasks.tasks.find? id), t) := by
  cases lost : veiled id <;>
    simp [Tracker.find, Tracker.onTasks, TaskStore.find, lost, Tracker.tasksPart, tasksPart]

theorem blindTo (veiled : TaskId → Bool) :
    Tracker.BlindTo {id | veiled id = true}
      fun _ : Tracker (VeiledTasks veiled) MemoryNotifications => True where
  fails id lost t _ := by
    have lost : veiled id = true := lost
    exact ⟨_, _, (find_eq id t).trans (by rw [if_pos lost]), trivial⟩
  finds id found t _ := by
    have found : ¬ veiled id = true := found
    exact ⟨_, _, (find_eq id t).trans (by rw [if_neg found]), trivial⟩
  increments _ _ _ _ := ⟨_, _, rfl, trivial⟩
  completes _ _ _ _ := ⟨_, _, rfl, trivial⟩
  notifies _ _ _ := ⟨_, _, rfl, trivial⟩

end VeiledTasks

/-- Records of the tasks 1 and 2 wait one behind the other, and task 1 cannot be looked up. -/
def veiledPlant :
    Plant MemoryQueue (VeiledTasks (· = ⟨1⟩)) MemoryNotifications (Timed Unit) where
  queue :=
    ((MemoryQueue.empty.publish "copy.relay" 0 (.new ⟨1⟩ "lost" "a")).2.publish
      "copy.relay" 0 (.new ⟨2⟩ "found" "b")).2
  tracker := ⟨⟨.empty⟩, .empty⟩
  services := Timed.start .epoch ()

theorem left_behind_lost_veiled :
    Tracker.BlindTo {id : TaskId | decide (id = ⟨1⟩) = true}
        (fun _ : Tracker (VeiledTasks (· = ⟨1⟩)) MemoryNotifications => True) ∧
      ([relayTopology].flatMap Topology.topics).Nodup ∧
      ∃ q, (Runner.new [relayTopology] 0 1).drain veiledPlant = (.ok 0, q) ∧
        ∀ m ∈ q.queue.messages, m.isPendingOn "copy.relay" 0 = true → m.envelope.taskId ≠ ⟨1⟩ →
          (MemoryQueue.taken "copy.relay" 0 1 q.queue).length = 1 := by
  have blind := VeiledTasks.blindTo (· = (⟨1⟩ : TaskId))
  have distinct : ([relayTopology].flatMap Topology.topics).Nodup := by decide
  obtain ⟨k, q, -, drained, behind⟩ := Runner.left_behind_lost (p := veiledPlant)
    blind distinct 0 1 trivial
  have counted : ((Runner.new [relayTopology] 0 1).drain veiledPlant).1 = .ok 0 := by
    decide +kernel
  rw [drained, Except.ok.injEq] at counted
  subst counted
  refine ⟨blind, distinct, q, drained, fun m mem waits found => ?_⟩
  exact (behind relayTopology List.mem_cons_self "copy.relay" (by decide) 0 Nat.one_pos m mem waits
    (by simpa using found)).1

/-- **A record that is left behind**: the worker claims one message at a time, and what it claims is
always the record of the task that cannot be looked up. -/
theorem left_behind :
    Tracker.BlindTo {id : TaskId | decide (id = ⟨1⟩) = true}
        (fun _ : Tracker (VeiledTasks (· = ⟨1⟩)) MemoryNotifications => True) ∧
      ([relayTopology].flatMap Topology.topics).Nodup ∧
      ∃ q, (Runner.new [relayTopology] 0 1).drain veiledPlant = (.ok 0, q) ∧
        ∃ m ∈ q.queue.messages, m.isPendingOn "copy.relay" 0 = true ∧ m.envelope.taskId = ⟨2⟩ := by
  refine ⟨VeiledTasks.blindTo _, by decide, _, rfl, ?_⟩
  decide +kernel

end Conveyor
