import Conveyor.Proofs.Runner.Draining
import Conveyor.Proofs.Submission.Publication
import Conveyor.Proofs.Topology.Way
import Mathlib.Algebra.GroupWithZero.Nat

/-!
# Jobs

A job is what a runner is given to do: tasks that list their resources, and the topologies of which
their records go the way.  What the runner makes of them is measured against the chains, through
which each record would go in one go.

* `Job` — the tasks and the topologies; `Job.Run` is what happens to a plant as tasks are submitted
  and workers poll.
* `Job.outcomes`, `Job.visits` — what the records of a task come to in the chain, and how many
  stages they visit.
* `Job.fate`, `Job.ahead` — the same of a message, from its topic on.
* **`Job.filter_outcomes`** — the outcomes about a task among those of several.
* **`Job.chainFrom_worker`** — the stages before a worker, and before the topic on which it hands
  records on.
-/

namespace Conveyor

variable {V : Type}

/-! ## Outcomes as they are reported -/

namespace Outcome

/-- The notification of an outcome, with no date. -/
def notice? : Outcome → Option Notification
  | forward _ => none
  | error e => some (.ofError .epoch e)
  | drop id resource => some (.ofDeleted .epoch id resource)

theorem taskId_of_notice? {outcome : Outcome} {n : Notification} (h : outcome.notice? = some n) :
    n.taskId = outcome.task := by
  cases outcome with
  | forward e => cases h
  | error e =>
    cases h
    rfl
  | drop id resource =>
    cases h
    rfl

theorem filter_notices (outcomes : List Outcome) (id : TaskId) :
    (outcomes.filterMap notice?).filter (·.taskId = id)
      = (outcomes.filter (·.task = id)).filterMap notice? := by
  rw [List.filter_filterMap, List.filterMap_filter]
  refine List.filterMap_congr fun outcome _ => ?_
  cases notice : outcome.notice? with
  | none => simp
  | some n =>
    rw [← taskId_of_notice? notice]
    simp [Option.filter]

end Outcome

/-- A notification with no date. -/
def Notification.undated (n : Notification) : Notification := { n with createdAt := .epoch }

namespace Worker

theorem announced_ending (now : Timestamp) (id : TaskId) (outcome : Outcome) :
    (ending now id outcome).announced.map Notification.undated = outcome.notice?.toList := by
  cases outcome <;> rfl

end Worker

/-! ## Jobs -/

/-- Tasks that list their resources, and the topologies of which their records go the way.  No topic
comes twice; stages go by the record alone, and keep its task. -/
structure Job (V : Type) : Type 1 where
  topologies : List (Topology V)
  submitter : Submitter V
  tasks : List Task
  /-- The resources that a task lists. -/
  resources : Task → List String
  /-- The topology of a task. -/
  topologyOf : Task → Topology V
  distinct : (topologies.flatMap Topology.topics).Nodup
  unchained : ∀ t ∈ topologies, t.chained = false
  steady : ∀ t ∈ topologies, ∀ stage ∈ t.stages, stage.Steady
  keeps : ∀ t ∈ topologies, ∀ stage ∈ t.stages, stage.KeepsTask
  ids : (tasks.map Task.id).Nodup
  mem : ∀ task ∈ tasks, topologyOf task ∈ topologies
  found : ∀ task ∈ tasks, submitter.topologies.get? task.topology = some (topologyOf task)
  listed : ∀ task ∈ tasks, submitter.source task = Feed.ofResources (resources task)

namespace Job

variable (job : Job V) (v : V)

/-- The envelopes in which the records of a task set out. -/
def envelopes (task : Task) : List Envelope :=
  (job.resources task).map fun name => (SourceRecord.ofResource name).envelope task

/-- The outcomes of a task: what its records come to if each goes through the chain in one go. -/
def outcomes (task : Task) : List Outcome :=
  (job.envelopes task).map fun e => ((job.topologyOf task).runRecord e v).1

/-- How many stages the records of a task then visit. -/
def visits (task : Task) : Nat :=
  ((job.envelopes task).map fun e => stagesVisited (job.topologyOf task).stages e v).sum

/-- What a message comes to, from its topic on. -/
def fate (m : StoredMessage) : Outcome :=
  (runChain (chainFrom job.topologies m.topic) m.envelope v).1

/-- How many stages are before a message. -/
def ahead (m : StoredMessage) : Nat := stagesVisited (chainFrom job.topologies m.topic) m.envelope v

def runner (interval : Millis) (batch : Nat) : Runner V := .new job.topologies interval batch

/-- What happens to a plant as tasks of a job are submitted and workers poll, in any order; the
number is that of the messages that were acknowledged. -/
inductive Run [Clock V] (r : Runner V) (p : MemoryPlant V) :
    List Task → Nat → MemoryPlant V → Prop where
  | start : Run r p [] 0 p
  | submit {done : List Task} {n : Nat} {q q' : MemoryPlant V} {task : Task}
      {submission : Submission} (so_far : Run r p done n q) (mem : task ∈ job.tasks)
      (fresh : task ∉ done) (run : job.submitter.submit task q = (.ok submission, q')) :
      Run r p (task :: done) n q'
  | poll {done : List Task} {n k : Nat} {q q' : MemoryPlant V} {w : Worker V}
      (so_far : Run r p done n q) (mem : w ∈ r.workers) (run : w.poll q = (.ok k, q')) :
      Run r p done (n + k) q'
  /-- Something goes on in the services. -/
  | elapse {done : List Task} {n : Nat} {q : MemoryPlant V} (so_far : Run r p done n q)
      (services : V) : Run r p done n { q with services := services }

/-! ## What a job comes to in its chains -/

variable {job v} {task task' : Task} {done : List Task}

theorem eq_of_id (mem : task ∈ job.tasks) (mem' : task' ∈ job.tasks) (same : task.id = task'.id) :
    task = task' :=
  List.inj_on_of_nodup_map job.ids mem mem' same

theorem task_outcomes (mem : task ∈ job.tasks) {outcome : Outcome}
    (h : outcome ∈ job.outcomes v task) : outcome.task = task.id := by
  obtain ⟨e, here, rfl⟩ := List.mem_map.1 h
  obtain ⟨name, -, rfl⟩ := List.mem_map.1 here
  have keeps := job.keeps _ (job.mem task mem)
  rw [Topology.runRecord, task_runChain keeps, SourceRecord.taskId_envelope]

theorem filter_outcomes_of_not_mem (mem : task ∈ job.tasks) (sub : ∀ t ∈ done, t ∈ job.tasks)
    (h : task ∉ done) : (done.flatMap (job.outcomes v)).filter (·.task = task.id) = [] := by
  rw [List.filter_eq_nil_iff]
  intro outcome here
  obtain ⟨other, there, here⟩ := List.mem_flatMap.1 here
  rw [task_outcomes (sub other there) here, decide_eq_true_eq]
  intro same
  rw [eq_of_id (sub other there) mem same] at there
  exact h there

/-- **The outcomes about a task** among those of several are its own. -/
theorem filter_outcomes (sub : ∀ t ∈ done, t ∈ job.tasks) (nodup : done.Nodup)
    (h : task ∈ done) :
    (done.flatMap (job.outcomes v)).filter (·.task = task.id) = job.outcomes v task := by
  induction done with
  | nil => cases h
  | cons first rest ih =>
    have own := sub first (List.mem_cons_self ..)
    have subRest : ∀ t ∈ rest, t ∈ job.tasks := fun t mem => sub t (List.mem_cons_of_mem _ mem)
    obtain ⟨fresh, nodup⟩ := List.nodup_cons.1 nodup
    rw [List.flatMap_cons, List.filter_append]
    rcases List.mem_cons.1 h with rfl | h
    · have all : (job.outcomes v task).filter (·.task = task.id) = job.outcomes v task := by
        rw [List.filter_eq_self]
        intro outcome here
        rw [task_outcomes own here, decide_eq_true_eq]
      rw [all, filter_outcomes_of_not_mem own subRest fresh, List.append_nil]
    · have none : (job.outcomes v first).filter (·.task = task.id) = [] := by
        rw [List.filter_eq_nil_iff]
        intro outcome here
        rw [task_outcomes own here, decide_eq_true_eq]
        intro same
        rw [eq_of_id own (subRest task h) same] at fresh
        exact fresh h
      rw [none, List.nil_append, ih subRest nodup h]

variable (job) in
theorem steady_chainFrom (topic : String) :
    ∀ stage ∈ chainFrom job.topologies topic, stage.Steady := by
  intro stage mem
  obtain ⟨t, there, here⟩ := mem_chainFrom mem
  exact job.steady t there stage here

variable (job) in
theorem keeps_chainFrom (topic : String) :
    ∀ stage ∈ chainFrom job.topologies topic, stage.KeepsTask := by
  intro stage mem
  obtain ⟨t, there, here⟩ := mem_chainFrom mem
  exact job.keeps t there stage here

theorem task_fate (m : StoredMessage) : (job.fate v m).task = m.envelope.taskId :=
  task_runChain (job.keeps_chainFrom m.topic) m.envelope v

/-- **The way before a worker** begins with its stage, and goes on from the topic to which the
worker hands records on, if it does. -/
theorem chainFrom_worker {interval : Millis} {batch : Nat} {w : Worker V}
    (mem : w ∈ (job.runner interval batch).workers) :
    ∃ rest, chainFrom job.topologies w.topic = w.stage :: rest ∧ (w.next = none → rest = []) ∧
      ∀ topic, w.next = some topic → chainFrom job.topologies topic = rest ∧
        ∃ stage ∈ w.topology.stages, topic = stageTopic w.topology.name stage.name :=
  Runner.chainFrom_of_worker job.distinct mem

end Job

end Conveyor
