import Conveyor.Proofs.Runner.Job
import Conveyor.Proofs.Tracker.Completion

/-!
# The course of a job

Every message of a job has its *fate* before it: the outcome of the chain from its topic on.  To
hand a record on leaves its fate as it is; when it ends, it ends in its fate.  So the outcomes that
were reported, together with the fates of the messages that are out, are at all times the outcomes
of the chains; and every poll takes off the stages before the messages as many as it acknowledges.

* `Tally` — the record of a task once some of its outcomes were reported; `Job.Booked` — the records
  of all tasks of a job.
* `Job.Course` — how a job stands.
* **`Job.Course.onward`**, **`Job.Course.ended`** — what becomes of one message keeps the course,
  and so does a whole poll: **`Job.Course.poll`**.
* **`Job.Course.submit`** — so does the submission of a task.
-/

namespace Conveyor

open Tracker (Change)

variable {V : Type}

/-! ## The record of a task -/

/-- The record of a task of `n` records once some outcomes of it were reported. -/
structure Tally (reported : List Outcome) (n : Nat) (t : TaskInfo) : Prop where
  expected : t.expected = n
  fatal : t.fatal = none
  counts : ∀ c, t.count c = reported.countP (·.counter = c)
  state : t.state = .processing ∧ reported.length < n ∨ t.state = .processed ∧ reported.length = n

namespace Tally

variable {reported : List Outcome} {n : Nat} {t : TaskInfo} {now : Timestamp}

theorem finished_eq (counts : ∀ c, t.count c = reported.countP (·.counter = c)) :
    t.finished = reported.length := by
  have sum : ∀ reported : List Outcome,
      reported.countP (·.counter = .processed) + reported.countP (·.counter = .errors)
        + reported.countP (·.counter = .deleted) + reported.countP (·.counter = .postProcessed)
      = reported.length := by
    intro reported
    induction reported with
    | nil => rfl
    | cons outcome rest ih =>
      simp only [List.countP_cons, List.length_cons]
      generalize outcome.counter = c
      cases c <;> simp <;> omega
  have all := sum reported
  have p := counts .processed
  have e := counts .errors
  have d := counts .deleted
  have q := counts .postProcessed
  simp only [TaskInfo.count] at p e d q
  rw [TaskInfo.finished]
  omega

/-- A record in progress is settled: it is complete if as many outcomes were reported as there are
records. -/
theorem settled (processing : t.state = .processing) (expected : t.expected = n)
    (fatal : t.fatal = none) (counts : ∀ c, t.count c = reported.countP (·.counter = c))
    (le : reported.length ≤ n) : Tally reported n (t.settled now) := by
  have finished := finished_eq counts
  have due_iff : t.isDue = true ↔ reported.length = n := by
    rw [TaskInfo.isDue_iff, expected, finished]
    constructor
    · rintro ⟨-, -, reached⟩
      omega
    · intro full
      exact ⟨processing, by omega, by omega⟩
  refine ⟨?_, ?_, fun c => ?_, ?_⟩
  · rw [TaskInfo.expected_settled, expected]
  · rw [TaskInfo.fatal_settled, fatal]
  · rw [TaskInfo.count_settled, counts]
  · by_cases full : reported.length = n
    · right
      have verdict : (t.completed now).state = t.verdict := rfl
      rw [TaskInfo.settled, if_pos (due_iff.2 full), verdict, TaskInfo.verdict, fatal]
      exact ⟨rfl, full⟩
    · left
      rw [TaskInfo.settled, if_neg (mt due_iff.1 full)]
      exact ⟨processing, by omega⟩

/-- **One more outcome is reported.** -/
theorem count (h : Tally reported n t) (less : reported.length < n) (outcome : Outcome) :
    Tally (reported ++ [outcome]) n ((Change.count outcome.counter).revise now t) := by
  obtain ⟨processing, -⟩ : t.state = .processing ∧ reported.length < n := by
    refine h.state.resolve_right ?_
    rintro ⟨-, full⟩
    omega
  have active := TaskInfo.isActive_of_processing processing
  rw [Change.revise_of_checks rfl, Change.own_count, if_pos active]
  refine settled ?_ ?_ ?_ (fun c => ?_) ?_
  · rw [TaskInfo.state_bump, processing]
  · rw [TaskInfo.expected_bump, h.expected]
  · rw [TaskInfo.fatal_bump, h.fatal]
  · rw [TaskInfo.count_bump, h.counts, List.countP_append]
    by_cases same : c = outcome.counter
    · subst same
      simp
    · have apart : outcome.counter ≠ c := fun h => same h.symm
      simp [same, apart]
  · rw [List.length_append, List.length_singleton]
    omega

theorem expect (processing : t.state = .processing) (fatal : t.fatal = none)
    (fresh : ∀ c, t.count c = 0) (n : Nat) : Tally [] n ((Change.expect n).revise now t) := by
  rw [Change.revise_of_checks rfl, Change.own_expect]
  refine settled processing rfl fatal (fun c => ?_) (Nat.zero_le n)
  rw [List.countP_nil]
  have same : ({ t with expected := (n : Int) } : TaskInfo).count c = t.count c := by
    cases c <;> rfl
  rw [same, fresh]
  rfl

end Tally

/-- The records of a job's tasks: of those that are submitted, with the outcomes that were reported,
and of no others. -/
structure Job.Booked (job : Job V) (v : V) (done : List Task) (reported : List Outcome)
    (progress : TaskId → Option TaskInfo) : Prop where
  known : ∀ task ∈ done, ∃ t, progress task.id = some t ∧
    Tally (reported.filter (·.task = task.id)) (job.outcomes v task).length t
  unknown : ∀ task ∈ job.tasks, task ∉ done → progress task.id = none

namespace Job.Booked

variable {job : Job V} {v : V} {q : MemoryPlant V} {done : List Task} {reported : List Outcome}
  {progress after : TaskId → Option TaskInfo} {task : Task}

/-- **An outcome of a task is reported.** -/
theorem ended (h : job.Booked v done reported q.progress) (sub : ∀ t ∈ done, t ∈ job.tasks)
    (mem : task ∈ done) {outcome : Outcome} (own : outcome.task = task.id)
    (less : (reported.filter (·.task = task.id)).length < (job.outcomes v task).length)
    (now : Timestamp) :
    job.Booked v done (reported ++ [outcome])
      (q.told (Worker.ending now task.id outcome)).progress := by
  have progress := q.progress_told (Worker.ending now task.id outcome)
  rw [Worker.task_ending now own] at progress
  constructor
  · intro other there
    obtain ⟨t, found, tally⟩ := h.known other there
    rw [progress other.id, List.filter_append]
    by_cases same : task.id = other.id
    · obtain rfl := Job.eq_of_id (sub task mem) (sub other there) same
      have about : [outcome].filter (·.task = task.id) = [outcome] := by simp [own]
      rw [if_pos rfl, found, Tracker.Call.after, Worker.change?_ending, Worker.now_ending, about]
      exact ⟨_, rfl, tally.count less outcome⟩
    · have about : [outcome].filter (·.task = other.id) = [] := by simp [own, same]
      rw [if_neg same, about, List.append_nil]
      exact ⟨t, found, tally⟩
  · intro other there absent
    have apart : task.id ≠ other.id := by
      intro same
      rw [Job.eq_of_id (sub task mem) there same] at mem
      exact absent mem
    rw [progress other.id, if_neg apart]
    exact h.unknown other there absent

/-- **A task is submitted**: it has begun, and the number of its records is expected. -/
theorem submitted (h : job.Booked v done reported progress) (sub : ∀ t ∈ done, t ∈ job.tasks)
    (mem : task ∈ job.tasks) (fresh : task ∉ done)
    (nothing : reported.filter (·.task = task.id) = []) {now : Timestamp} {t : TaskInfo}
    (known : after task.id = some ((Change.expect (job.outcomes v task).length).revise now t))
    (others : ∀ id, task.id ≠ id → after id = progress id)
    (processing : t.state = .processing) (fatal : t.fatal = none) (zero : ∀ c, t.count c = 0) :
    job.Booked v (task :: done) reported after := by
  constructor
  · intro other here
    rcases List.mem_cons.1 here with rfl | here
    · rw [nothing]
      exact ⟨_, known, Tally.expect processing fatal zero _⟩
    · have apart : task.id ≠ other.id := by
        intro same
        rw [Job.eq_of_id mem (sub other here) same] at fresh
        exact fresh here
      rw [others other.id apart]
      exact h.known other here
  · intro other there absent
    rw [List.mem_cons, not_or] at absent
    have apart : task.id ≠ other.id := fun same => absent.1 (Job.eq_of_id there mem same.symm)
    rw [others other.id apart]
    exact h.unknown other there absent.2

end Job.Booked

/-! ## How a job stands -/

/-- A message is of a submitted task, and waits for a stage of the job on the partition on which its
record belongs. -/
structure Job.Placed (job : Job V) (done : List Task) (m : StoredMessage) : Prop where
  place : ∃ t ∈ job.topologies, ∃ stage ∈ t.stages,
    m.topic = stageTopic t.name stage.name ∧ m.partition = t.partitionFor m.envelope
  task : ∃ task ∈ done, m.envelope.taskId = task.id

/-- How a job stands: which tasks are submitted, how many messages were acknowledged, and which
outcomes were reported since the plant was `p`. -/
structure Job.Course (job : Job V) (v : V) (p : MemoryPlant V) (done : List Task) (n : Nat)
    (q : MemoryPlant V) (reported : List Outcome) : Prop where
  sub : ∀ task ∈ done, task ∈ job.tasks
  nodup : done.Nodup
  placed : ∀ m ∈ q.queue.messages, job.Placed done m
  /-- What was reported, and what is before the messages, are the outcomes of the chains. -/
  fates : (reported ++ q.queue.messages.map (job.fate v)).Perm (done.flatMap (job.outcomes v))
  booked : job.Booked v done reported q.progress
  notices : ∃ gained, q.entries = p.entries ++ gained ∧
    gained.map Notification.undated = reported.filterMap Outcome.notice?
  steps : n + (q.queue.messages.map (job.ahead v)).sum = (done.map (job.visits v)).sum

namespace Job.Course

variable {job : Job V} {v : V} {p q q' : MemoryPlant V} {done : List Task} {n : Nat}
  {reported : List Outcome} {task : Task} {m : StoredMessage}

/-- The outcomes about a task that were reported, and those before its messages, are the outcomes of
its chains. -/
theorem fates_of_task (h : job.Course v p done n q reported) (mem : task ∈ done) :
    (reported.filter (·.task = task.id) ++
      (q.queue.messages.map (job.fate v)).filter (·.task = task.id)).Perm
        (job.outcomes v task) := by
  have about := h.fates.filter (·.task = task.id)
  rw [List.filter_append, Job.filter_outcomes h.sub h.nodup mem] at about
  exact about

/-- As long as a message of a task is out, not all of its outcomes were reported. -/
theorem less (h : job.Course v p done n q reported) (mem : task ∈ done)
    (out : m ∈ q.queue.messages) (own : m.envelope.taskId = task.id) :
    (reported.filter (·.task = task.id)).length < (job.outcomes v task).length := by
  have length := (h.fates_of_task mem).length_eq
  have fate : job.fate v m ∈ (q.queue.messages.map (job.fate v)).filter (·.task = task.id) := by
    rw [List.mem_filter, Job.task_fate, own]
    exact ⟨List.mem_map_of_mem out, decide_eq_true rfl⟩
  have some := List.length_pos_of_mem fate
  rw [List.length_append] at length
  omega

theorem processing (h : job.Course v p done n q reported) (mem : task ∈ done)
    (out : m ∈ q.queue.messages) (own : m.envelope.taskId = task.id) :
    ∃ t, q.progress task.id = some t ∧ t.state = .processing := by
  obtain ⟨t, found, tally⟩ := h.booked.known task mem
  refine ⟨t, found, ?_⟩
  rcases tally.state with ⟨processing, -⟩ | ⟨-, full⟩
  · exact processing
  · have := h.less mem out own
    omega

/-- **A record is handed on.**  Its fate stays as it is, and one stage less is before it. -/
theorem onward (h : job.Course v p done n q reported) (out : m ∈ q.queue.messages)
    {topic : String} {partition : Nat} {e : Envelope} (services : V)
    (fate : (runChain (chainFrom job.topologies topic) e v).1 = job.fate v m)
    (ahead : job.ahead v m = stagesVisited (chainFrom job.topologies topic) e v + 1)
    (task : e.taskId = m.envelope.taskId)
    (place : ∃ t ∈ job.topologies, ∃ stage ∈ t.stages,
      topic = stageTopic t.name stage.name ∧ partition = t.partitionFor e) :
    job.Course v p done (n + 1)
      { q with queue := (q.queue.publish topic partition e).2.ack m.id, services := services }
      reported := by
  have perm := MemoryQueue.perm_ack (MemoryQueue.mem_publish topic partition e out)
  rw [MemoryQueue.messages_publish] at perm
  have fates := perm.map (job.fate v)
  have steps := (perm.map (job.ahead v)).sum_nat
  simp only [List.map_append, List.map_cons, List.map_nil, List.sum_append, List.sum_cons,
    List.sum_nil] at fates steps
  have same : job.fate v ⟨⟨q.queue.issued + 1⟩, topic, partition, e, false, 0⟩ = job.fate v m :=
    fate
  have further : job.ahead v m
      = job.ahead v ⟨⟨q.queue.issued + 1⟩, topic, partition, e, false, 0⟩ + 1 := ahead
  rw [same] at fates
  refine ⟨h.sub, h.nodup, fun m' mem => ?_, ?_, h.booked, h.notices, ?_⟩
  · have before := List.mem_of_mem_filter mem
    rcases List.mem_append.1 before with before | new
    · exact h.placed m' before
    · obtain rfl := List.mem_singleton.1 new
      refine ⟨place, ?_⟩
      show ∃ t ∈ done, e.taskId = t.id
      rw [task]
      exact (h.placed m out).task
  · have moved := (List.perm_append_singleton _ _).symm.trans fates
    exact (moved.cons_inv.symm.append_left reported).trans h.fates
  · have total := h.steps
    have after : (((q.queue.publish topic partition e).2.ack m.id).messages.map (job.ahead v)).sum
        + (n + 1) = (done.map (job.visits v)).sum := by omega
    exact (Nat.add_comm _ _).trans after

/-- **A record has come to its end**, which is its fate; no stage is before it any more. -/
theorem ended (h : job.Course v p done n q reported) (out : m ∈ q.queue.messages)
    (now : Timestamp) (services : V) (ahead : job.ahead v m = 1) :
    job.Course v p done (n + 1)
      { q.told (Worker.ending now m.envelope.taskId (job.fate v m)) with
        queue := q.queue.ack m.id
        services := services }
      (reported ++ [job.fate v m]) := by
  have perm := MemoryQueue.perm_ack out
  have fates := perm.map (job.fate v)
  have steps := (perm.map (job.ahead v)).sum_nat
  simp only [List.map_cons, List.sum_cons] at fates steps
  refine ⟨h.sub, h.nodup, fun m' mem => h.placed m' (List.mem_of_mem_filter mem), ?_, ?_, ?_, ?_⟩
  · rw [List.append_assoc]
    exact (fates.symm.append_left reported).trans h.fates
  · obtain ⟨task, mem, own⟩ := (h.placed m out).task
    have fate : (job.fate v m).task = task.id := (Job.task_fate m).trans own
    rw [own]
    exact h.booked.ended h.sub mem fate (h.less mem out own) now
  · obtain ⟨gained, entries, undated⟩ := h.notices
    have announced := q.entries_told (Worker.ending now m.envelope.taskId (job.fate v m))
    refine ⟨gained ++ (Worker.ending now m.envelope.taskId (job.fate v m)).announced, ?_, ?_⟩
    · rw [← List.append_assoc, ← entries]
      exact announced
    · rw [List.map_append, undated, Worker.announced_ending, List.filterMap_append]
      congr 1
  · have total := h.steps
    show n + 1 + ((q.queue.ack m.id).messages.map (job.ahead v)).sum = _
    omega

variable [Clock V] {interval : Millis} {batch : Nat} {w : Worker V}

/-- **The handling of a message** keeps the course of the job. -/
theorem handles (h : job.Course v p done n q reported)
    (mem : w ∈ (job.runner interval batch).workers) {d : Delivery} (held : Holds q.queue d)
    (topic : d.topic = w.topic) (handles : Worker.Handles w d q q') :
    ∃ reported', job.Course v p done (n + 1) q' reported' := by
  obtain ⟨m, out, -, rfl⟩ := held
  obtain ⟨rest, way, last, next⟩ := Job.chainFrom_worker mem
  have way : chainFrom job.topologies m.topic = w.stage :: rest := by
    rw [show m.topic = w.topic from topic, way]
  have first : w.stage ∈ chainFrom job.topologies m.topic := by
    rw [way]
    exact List.mem_cons_self ..
  have steady : ∀ stage ∈ w.stage :: rest, stage.Steady := by
    rw [← way]
    exact job.steady_chainFrom m.topic
  -- the fate of the message does not go by the services, so it can be read off their state now
  obtain ⟨fate, ahead⟩ := runChain_of_steady steady m.envelope v q.services
  rw [← way] at fate ahead
  have fate : job.fate v m = (runChain (w.stage :: rest) m.envelope q.services).1 := by
    rw [← way]
    exact fate
  have ahead : job.ahead v m = stagesVisited (w.stage :: rest) m.envelope q.services := by
    rw [← way]
    exact ahead
  obtain ⟨here, hereDone, taskId⟩ := (h.placed m out).task
  obtain ⟨t, known, processing⟩ := h.processing hereDone out taskId
  cases handles with
  | void found dropped =>
    rename_i t'
    have found : q.progress m.envelope.taskId = some t' := found
    rw [taskId, known] at found
    cases found
    rw [processing] at dropped
    cases dropped
  | onward live run hands =>
    rename_i topic' e services
    have run : w.stage.run m.envelope q.services = (.forward e, services) := run
    obtain ⟨further, stage, stageMem, named⟩ := next topic' hands
    rw [runChain_of_forward run] at fate
    rw [stagesVisited_of_forward run] at ahead
    have steadyRest : ∀ stage ∈ rest, stage.Steady := fun stage mem =>
      steady stage (List.mem_cons_of_mem _ mem)
    obtain ⟨fate', ahead'⟩ := runChain_of_steady steadyRest e services v
    have kept := (job.keeps_chainFrom m.topic w.stage first).run m.envelope q.services
    rw [run] at kept
    refine ⟨reported, h.onward out services ?_ ?_ kept
      ⟨w.topology, (Runner.mem_workers_new mem).1, stage, stageMem, named, rfl⟩⟩
    · rw [further, fate, fate']
    · rw [further, ahead, ahead']
  | ended live run leaves =>
    rename_i outcome services
    have run : w.stage.run m.envelope q.services = (outcome, services) := run
    have leaves : ∀ e, outcome = .forward e → rest = [] := fun e same => last (leaves e same)
    rw [runChain_of_leaves run leaves] at fate
    rw [stagesVisited_of_leaves run leaves] at ahead
    have fate : job.fate v m = outcome := fate
    have ended := h.ended out (Clock.now services) services ahead
    rw [fate] at ended
    exact ⟨_, ended⟩

/-- **A poll keeps the course of the job**, and acknowledges as many messages as it answers. -/
theorem poll (h : job.Course v p done n q reported)
    (mem : w ∈ (job.runner interval batch).workers) :
    ∃ reported', job.Course v p done (n + (w.batchOf q).length) (w.poll q).2 reported' := by
  refine (w.poll_induction (I := fun k q' => ∃ reported',
    job.Course v p done (n + k) q' reported') q ⟨reported, ?_⟩ ?_).2
  · have same : ∀ {β : Type} (f : StoredMessage → β), (∀ m : StoredMessage, f m.launched = f m) →
        (w.claimed q).queue.messages.map f = q.queue.messages.map f := fun f keeps =>
      MemoryQueue.map_claim f keeps w.topic w.partition w.batch q.queue
    refine ⟨h.sub, h.nodup, fun m mem => ?_, ?_, h.booked, h.notices, ?_⟩
    · have mem := List.mem_map_of_mem mem (f := fun m => (m.topic, m.partition, m.envelope))
      rw [same _ fun _ => rfl] at mem
      obtain ⟨m', before, equal⟩ := List.mem_map.1 mem
      simp only [Prod.mk.injEq] at equal
      obtain ⟨topic, partition, envelope⟩ := equal
      have placed := h.placed m' before
      refine ⟨?_, ?_⟩
      · rw [← topic, ← partition, ← envelope]
        exact placed.place
      · rw [← envelope]
        exact placed.task
    · rw [same (job.fate v) fun _ => rfl]
      exact h.fates
    · rw [same (job.ahead v) fun _ => rfl]
      exact h.steps
  · rintro k d q₁ q₂ ⟨reported₁, so_far⟩ held topic - handles
    obtain ⟨reported₂, next⟩ := so_far.handles mem held topic handles
    exact ⟨reported₂, next⟩

end Job.Course

namespace Job.Course

variable [Clock V] {job : Job V} {v : V} {p q : MemoryPlant V} {done : List Task} {n : Nat}
  {reported : List Outcome} {task : Task}

/-- What a job's submission of a task does: it publishes the task's records and expects them. -/
theorem submit_eq (h : job.Course v p done n q reported) (mem : task ∈ job.tasks)
    (fresh : task ∉ done) :
    job.submitter.submit task q
      = (.ok ⟨task.id, (job.topologyOf task).entryTopic, (job.outcomes v task).length,
          (job.outcomes v task).length⟩,
        (job.submitter.published (job.topologyOf task) task
          ((job.resources task).map SourceRecord.ofResource) q.services q).told
            (.setExpected (Clock.now q.services) task.id (job.outcomes v task).length)) := by
  have told : (job.submitter.source task).tell q.services
      = ⟨(job.resources task).map SourceRecord.ofResource, q.services, none⟩ := by
    rw [job.listed task mem, Feed.tell_ofResources]
  have length : ((job.resources task).map SourceRecord.ofResource).length
      = (job.outcomes v task).length := by
    simp only [Job.outcomes, Job.envelopes, List.length_map]
  have submitted := Submitter.submit_of_told (job.found task mem)
    (job.unchained _ (job.mem task mem)) (.inr (h.booked.unknown task mem fresh)) told
  rw [length] at submitted
  exact submitted

/-- The messages that a submission publishes: what is before them is what is before the records of
the task in the chain. -/
theorem exists_published (h : job.Course v p done n q reported) (mem : task ∈ job.tasks)
    (fresh : task ∉ done) : ∃ new : List StoredMessage,
    (job.submitter.submit task q).2.queue.messages = q.queue.messages ++ new ∧
    (∀ m ∈ new, m.inFlight = false ∧ job.Placed (task :: done) m) ∧
    new.map (job.fate v) = job.outcomes v task ∧
    (new.map (job.ahead v)).sum = job.visits v task := by
  obtain ⟨new, messages, envelopes, places⟩ := messages_publishing (job.topologyOf task) task
    ((job.resources task).map SourceRecord.ofResource) q.queue
  have envelopes : new.map StoredMessage.envelope = job.envelopes task := by
    rw [envelopes, List.map_map]
    rfl
  have way : ∀ m ∈ new, chainFrom job.topologies m.topic = (job.topologyOf task).stages := by
    intro m here
    rw [(places m here).1, chainFrom_entryTopic job.distinct (job.mem task mem)]
  refine ⟨new, ?_, fun m here => ⟨(places m here).2.2, ?_, task, List.mem_cons_self .., ?_⟩, ?_, ?_⟩
  · rw [h.submit_eq mem fresh]
    exact messages
  · obtain ⟨stage, rest, stages, entry⟩ := (job.topologyOf task).exists_entry
    obtain ⟨topic, partition, -⟩ := places m here
    refine ⟨_, job.mem task mem, stage, ?_, topic.trans entry, partition⟩
    rw [stages]
    exact List.mem_cons_self ..
  · have envelope := List.mem_map_of_mem here (f := StoredMessage.envelope)
    rw [envelopes] at envelope
    obtain ⟨name, -, same⟩ := List.mem_map.1 envelope
    rw [← same, SourceRecord.taskId_envelope]
  · rw [Job.outcomes, ← envelopes, List.map_map]
    refine List.map_congr_left fun m here => ?_
    rw [Job.fate, way m here]
    rfl
  · rw [Job.visits, ← envelopes, List.map_map]
    refine congrArg List.sum (List.map_congr_left fun m here => ?_)
    rw [Job.ahead, way m here]
    rfl

theorem progress_submit (h : job.Course v p done n q reported) (mem : task ∈ job.tasks)
    (fresh : task ∉ done) (id : TaskId) :
    (job.submitter.submit task q).2.progress id
      = if task.id = id then
          some ((Tracker.Change.expect (job.outcomes v task).length).revise
            (Clock.now q.services)
            (job.submitter.begun (job.topologyOf task) task (Clock.now q)))
        else q.progress id := by
  have accepted := Submitter.progress_accepted job.submitter (job.topologyOf task)
    (.inr (h.booked.unknown task mem fresh)) id
  rw [h.submit_eq mem fresh, Plant.progress_told]
  have same : (job.submitter.published (job.topologyOf task) task
      ((job.resources task).map SourceRecord.ofResource) q.services q).progress id
      = (job.submitter.accepted (job.topologyOf task) task q).progress id := rfl
  have about : (Tracker.Call.setExpected (Clock.now q.services) task.id
      (job.outcomes v task).length).task = task.id := rfl
  rw [same, accepted, about]
  by_cases own : task.id = id
  · rw [if_pos own, if_pos own, if_pos own]
    rfl
  · rw [if_neg own, if_neg own, if_neg own]

/-- **A submission keeps the course of the job**, with one task more. -/
theorem submit (h : job.Course v p done n q reported) (mem : task ∈ job.tasks)
    (fresh : task ∉ done) :
    job.Course v p (task :: done) n (job.submitter.submit task q).2 reported := by
  obtain ⟨new, messages, placed, fates, ahead⟩ := h.exists_published mem fresh
  have progress := h.progress_submit mem fresh
  have none : reported.filter (·.task = task.id) = [] := by
    -- what was reported is about the tasks submitted before
    have about := (h.fates.filter (·.task = task.id)).length_eq
    rw [Job.filter_outcomes_of_not_mem mem h.sub fresh, List.filter_append, List.length_append,
      List.length_nil] at about
    exact List.length_eq_zero_iff.1 (by omega)
  refine ⟨?_, List.nodup_cons.2 ⟨fresh, h.nodup⟩, ?_, ?_, ?_, ?_, ?_⟩
  · intro other here
    rcases List.mem_cons.1 here with rfl | here
    · exact mem
    · exact h.sub other here
  · intro m here
    rw [messages] at here
    rcases List.mem_append.1 here with before | here
    · obtain ⟨place, other, there, same⟩ := h.placed m before
      exact ⟨place, other, List.mem_cons_of_mem _ there, same⟩
    · exact (placed m here).2
  · rw [messages, List.map_append, fates, List.flatMap_cons, ← List.append_assoc]
    exact (h.fates.append_right _).trans List.perm_append_comm
  · refine h.booked.submitted h.sub mem fresh none ((progress task.id).trans (if_pos rfl))
      (fun id apart => (progress id).trans (if_neg apart)) rfl rfl fun c => ?_
    cases c <;> rfl
  · obtain ⟨gained, entries, undated⟩ := h.notices
    refine ⟨gained, ?_, undated⟩
    rw [h.submit_eq mem fresh, ← entries, Plant.entries_told]
    have same : (job.submitter.published (job.topologyOf task) task
        ((job.resources task).map SourceRecord.ofResource) q.services q).entries
        = (job.submitter.accepted (job.topologyOf task) task q).entries := rfl
    rw [same, Submitter.entries_accepted]
    exact List.append_nil _
  · rw [messages, List.map_append, List.sum_append, ahead, List.map_cons, List.sum_cons]
    have total := h.steps
    omega

end Job.Course

end Conveyor
