import Conveyor.Proofs.Queue.Spares
import Conveyor.Proofs.Topology.Way
import Conveyor.Proofs.Tracker.Calls
import Conveyor.Runner.Worker

/-!
# What a poll does to a plant in memory

In memory no call fails, so a worker deals with every message that it has claimed.  What it makes
of one message is one of three things: the message goes because its task was dropped, or its record
is handed on, or the end of its record is reported.

* `MemoryPlant` — a plant whose stores are in memory.
* `Worker.Handles` — what the handling of one message makes of a plant.
* `Worker.Claimed` — a batch that stands in a queue as it was claimed.
* **`Worker.poll_induction`** — what holds once a batch is claimed, and is kept by the handling of
  each message of it, holds after the poll; and the poll answers the size of the batch.
* `Worker.Keeps` — what a worker keeps when it claims a batch and when it handles a message.
* **`Worker.inFlight_poll`** — a poll leaves no message in flight that was not so before.
-/

namespace Conveyor

/-- The count that an outcome raises when a record leaves its topology with it. -/
def Outcome.counter : Outcome → Counter
  | forward _ => .processed
  | error _ => .errors
  | drop .. => .deleted

/-- A plant whose stores are in memory. -/
abbrev MemoryPlant (V : Type) : Type := Plant MemoryQueue MemoryTasks MemoryNotifications V

namespace Plant

variable {V : Type}

def progress (p : MemoryPlant V) (id : TaskId) : Option TaskInfo := p.tracker.progress id

/-- A plant after a call of its tracker. -/
def told (p : MemoryPlant V) (c : Tracker.Call) : MemoryPlant V :=
  { p with tracker := (c.run p.tracker).2 }

@[simp] theorem queue_told (p : MemoryPlant V) (c : Tracker.Call) : (p.told c).queue = p.queue :=
  rfl

/-- What was announced so far. -/
def entries (p : MemoryPlant V) : List Notification := p.tracker.notices.entries

theorem entries_told (p : MemoryPlant V) (c : Tracker.Call) :
    (p.told c).entries = p.entries ++ c.announced :=
  c.entries_run p.tracker

theorem progress_told (p : MemoryPlant V) (c : Tracker.Call) (id : TaskId) :
    (p.told c).progress id = if c.task = id then c.after (p.progress id) else p.progress id :=
  c.progress_run p.tracker id

section

variable [Clock V] {α : Type} {x : Timestamp → Action MemoryTracker StoreError α}
  {c : Tracker.Call}

/-- A report that does what a call of the tracker does. -/
theorem report_of_ok {a : α} (p : MemoryPlant V)
    (same : x (Clock.now p) p.tracker = (.ok a, (c.run p.tracker).2)) :
    Plant.report x p = (.ok a, p.told c) := by
  show ((x (Clock.now p) p.tracker).1, { p with tracker := (x (Clock.now p) p.tracker).2 }) = _
  rw [same]
  rfl

/-- A report that is a call of the tracker but for the form of its answer. -/
theorem report_of_map {change : Tracker.Change} {form : α → Tracker.Answer} (p : MemoryPlant V)
    (same : c.run = form <$> x (Clock.now p)) (h : c.change? = some change) :
    ∃ a, Plant.report x p = (.ok a, p.told c) := by
  obtain ⟨a, run⟩ := Tracker.Call.run_of_map same h p.tracker
  exact ⟨a, report_of_ok p run⟩

end

end Plant

namespace Worker

variable {V : Type} {w : Worker V} {d : Delivery} {p p' : MemoryPlant V}

/-! ## A batch that was claimed -/

/-- A batch stands in a queue as a claim has put it there. -/
structure Claimed (w : Worker V) (batch : List Delivery) (q : MemoryQueue) : Prop where
  nodup : (batch.map Delivery.id).Nodup
  held : ∀ d ∈ batch, Holds q d
  topic : ∀ d ∈ batch, d.topic = w.topic
  partition : ∀ d ∈ batch, d.partition = w.partition

theorem claimed_claim (w : Worker V) (q : MemoryQueue) :
    w.Claimed (q.claim w.topic w.partition w.batch).1
      (q.claim w.topic w.partition w.batch).2 where
  nodup := MemoryQueue.nodup_claim ..
  held _ mem := (Holds.of_claim mem).1
  topic _ mem := (Holds.of_claim mem).2.1
  partition _ mem := (Holds.of_claim mem).2.2

/-- The rest of a batch stands as it did, once its first message is dealt with. -/
theorem Claimed.rest {rest : List Delivery} {q q' : MemoryQueue} (h : w.Claimed (d :: rest) q)
    (first : MemoryQueue.Spares [d.id] q q') : w.Claimed rest q' := by
  obtain ⟨fresh, nodup⟩ := List.nodup_cons.1 h.nodup
  obtain ⟨-, topic⟩ := List.forall_mem_cons.1 h.topic
  obtain ⟨-, partition⟩ := List.forall_mem_cons.1 h.partition
  refine ⟨nodup, fun d' mem => ?_, topic, partition⟩
  refine first.holds (h.held d' (List.mem_cons_of_mem _ mem)) ?_
  rw [List.mem_singleton]
  exact fun same => fresh (same ▸ List.mem_map_of_mem mem)

/-! ## One message -/

theorem isVoid_apply (d : Delivery) (p : MemoryPlant V) :
    isVoid d p
      = (.ok ((p.progress d.envelope.taskId).any fun t => t.state = .dropped), p) := by
  rfl

/-- A message of a task that was not dropped goes through the stage. -/
theorem examine_of_live (live : ∀ t, p.progress d.envelope.taskId = some t → t.state ≠ .dropped) :
    w.examine d p
      = (.ok (some (w.stage.run d.envelope p.services).1),
          { p with services := (w.stage.run d.envelope p.services).2 }) := by
  have open_ : ((p.progress d.envelope.taskId).any fun t => t.state = .dropped) = false := by
    cases h : p.progress d.envelope.taskId with
    | none => rfl
    | some t => simpa using live t h
  rw [examine, Action.bind_of_ok (isVoid_apply d p), open_]
  rfl

theorem examine_of_dropped {t : TaskInfo} (known : p.progress d.envelope.taskId = some t)
    (dropped : t.state = .dropped) : w.examine d p = (.ok none, p) := by
  rw [examine, Action.bind_of_ok (isVoid_apply d p), known]
  simp [dropped]

/-- The report of an outcome with which a record leaves its topology. -/
def ending (now : Timestamp) (id : TaskId) : Outcome → Tracker.Call
  | .forward _ => .processed now id
  | .error e => .failed now e
  | .drop id resource => .deleted now id resource

theorem change?_ending (now : Timestamp) (id : TaskId) (outcome : Outcome) :
    (ending now id outcome).change? = some (.count outcome.counter) := by
  cases outcome <;> rfl

theorem now_ending (now : Timestamp) (id : TaskId) (outcome : Outcome) :
    (ending now id outcome).now = now := by
  cases outcome <;> rfl

theorem task_ending (now : Timestamp) {id : TaskId} {outcome : Outcome} (h : outcome.task = id) :
    (ending now id outcome).task = id := by
  cases outcome with
  | forward e => rfl
  | error e => exact h
  | drop task resource => exact h

variable [Clock V]

/-- What the handling of a message makes of a plant. -/
inductive Handles (w : Worker V) (d : Delivery) (p : MemoryPlant V) : MemoryPlant V → Prop where
  /-- The task was dropped. -/
  | void {t : TaskInfo} (known : p.progress d.envelope.taskId = some t)
      (dropped : t.state = .dropped) : Handles w d p { p with queue := p.queue.ack d.id }
  /-- The record is handed on to the next stage. -/
  | onward {topic : String} {e : Envelope} {services : V}
      (live : ∀ t, p.progress d.envelope.taskId = some t → t.state ≠ .dropped)
      (run : w.stage.run d.envelope p.services = (.forward e, services))
      (next : w.next = some topic) :
      Handles w d p
        { p with
          queue := (p.queue.publish topic (w.topology.partitionFor e) e).2.ack d.id
          services := services }
  /-- The record has come to its end. -/
  | ended {outcome : Outcome} {services : V}
      (live : ∀ t, p.progress d.envelope.taskId = some t → t.state ≠ .dropped)
      (run : w.stage.run d.envelope p.services = (outcome, services))
      (leaves : ∀ e, outcome = .forward e → w.next = none) :
      Handles w d p
        { p.told (ending (Clock.now services) d.envelope.taskId outcome) with
          queue := p.queue.ack d.id
          services := services }

theorem record_of_leaves {outcome : Outcome} (id : TaskId) (p : MemoryPlant V)
    (leaves : ∀ e, outcome = .forward e → w.next = none) :
    w.record id outcome p = (.ok (), p.told (ending (Clock.now p) id outcome)) := by
  cases outcome with
  | forward e =>
    obtain ⟨a, run⟩ := Plant.report_of_map (x := fun now => Tracker.processed now id)
      (c := .processed (Clock.now p) id) p rfl rfl
    simp only [record, leaves e rfl]
    rw [Action.bind_of_ok run]
    rfl
  | error e =>
    obtain ⟨a, run⟩ := Plant.report_of_map (x := fun now => Tracker.failed now e)
      (c := .failed (Clock.now p) e) p rfl rfl
    rw [record, Action.bind_of_ok run]
    rfl
  | drop task resource =>
    obtain ⟨a, run⟩ := Plant.report_of_map (x := fun now => Tracker.deleted now task resource)
      (c := .deleted (Clock.now p) task resource) p rfl rfl
    rw [record, Action.bind_of_ok run]
    rfl

theorem record_of_next {topic : String} (id : TaskId) (e : Envelope) (p : MemoryPlant V)
    (next : w.next = some topic) :
    w.record id (.forward e) p
      = (.ok (), { p with queue := (p.queue.publish topic (w.topology.partitionFor e) e).2 }) := by
  simp only [record, next]
  rfl

/-- Once the stage has run, the outcome of a message is recorded.  What the services have become by
then does not matter, as long as they tell the same time. -/
theorem conclude_spec {outcome : Outcome} {services : V}
    (live : ∀ t, p.progress d.envelope.taskId = some t → t.state ≠ .dropped)
    (run : w.stage.run d.envelope p.services = (outcome, services)) :
    ∃ p', Handles w d p p' ∧ p'.services = services ∧ ∀ v, Clock.now v = Clock.now services →
      w.conclude d (some outcome) { p with services := v } = (1, { p' with services := v }) := by
  by_cases leaves : ∀ e, outcome = .forward e → w.next = none
  · refine ⟨_, .ended live run leaves, rfl, fun v same => ?_⟩
    have record := record_of_leaves d.envelope.taskId { p with services := v } leaves
    rw [conclude, settle]
    simp only
    rw [Action.bind_of_ok record, ← same]
    rfl
  · push Not at leaves
    obtain ⟨e, rfl, next⟩ := leaves
    obtain ⟨topic, next⟩ := Option.ne_none_iff_exists'.1 next
    refine ⟨_, .onward live run next, rfl, fun v _ => ?_⟩
    have record := record_of_next d.envelope.taskId e { p with services := v } next
    rw [conclude, settle]
    simp only
    rw [Action.bind_of_ok record]
    rfl

/-- **A message is always dealt with.** -/
theorem handle_spec (w : Worker V) (d : Delivery) (p : MemoryPlant V) :
    ∃ p', w.handle d p = (1, p') ∧ Handles w d p p' := by
  by_cases dropped : ∃ t, p.progress d.envelope.taskId = some t ∧ t.state = .dropped
  · obtain ⟨t, known, dropped⟩ := dropped
    refine ⟨_, ?_, .void known dropped⟩
    rw [handle, examine_of_dropped known dropped]
    rfl
  · have live : ∀ t, p.progress d.envelope.taskId = some t → t.state ≠ .dropped :=
      fun t known h => dropped ⟨t, known, h⟩
    cases run : w.stage.run d.envelope p.services with
    | mk outcome services =>
    obtain ⟨p', handles, rfl, concluded⟩ := conclude_spec live run
    refine ⟨p', ?_, handles⟩
    rw [handle, examine_of_live live, run]
    exact concluded p'.services rfl

namespace Handles

/-- The handling of a message leaves all others alone. -/
theorem spares (h : Handles w d p p') : MemoryQueue.Spares [d.id] p.queue p'.queue := by
  cases h with
  | void => exact .ack ..
  | onward => exact (MemoryQueue.Spares.publish ..).trans (.ack ..)
  | ended => exact .ack ..

/-- The handling of a message puts none in flight, and takes that message out. -/
theorem inFlight (h : Handles w d p p') {m : StoredMessage} (mem : m ∈ p'.queue.messages)
    (flying : m.inFlight = true) : m ∈ p.queue.messages ∧ m.id ≠ d.id := by
  cases h with
  | void => simpa using mem
  | onward =>
    simp only [MemoryQueue.messages_ack, MemoryQueue.messages_publish, List.mem_filter,
      List.mem_append, List.mem_singleton, decide_eq_true_eq, ne_eq] at mem
    obtain ⟨before | rfl, apart⟩ := mem
    · exact ⟨before, apart⟩
    · cases flying
  | ended => simpa using mem

end Handles

/-! ## A batch -/

/-- The messages that a poll claims. -/
def batchOf (w : Worker V) (p : MemoryPlant V) : List Delivery :=
  (p.queue.claim w.topic w.partition w.batch).1

/-- The plant once they are claimed. -/
def claimed (w : Worker V) (p : MemoryPlant V) : MemoryPlant V :=
  { p with queue := (p.queue.claim w.topic w.partition w.batch).2 }

theorem poll_eq (w : Worker V) (p : MemoryPlant V) :
    w.poll p = (.ok (w.serve (w.batchOf p) (w.claimed p)).1,
      (w.serve (w.batchOf p) (w.claimed p)).2) := rfl

/-- What the handling of one message keeps, the handling of a batch keeps. -/
theorem serve_induction {I : Nat → MemoryPlant V → Prop}
    (step : ∀ n d p p', I n p → Holds p.queue d → d.topic = w.topic →
      d.partition = w.partition → Handles w d p p' → I (n + 1) p')
    (batch : List Delivery) {n : Nat} {p : MemoryPlant V} (claimed : w.Claimed batch p.queue)
    (h : I n p) :
    (w.serve batch p).1 = batch.length ∧ I (n + batch.length) (w.serve batch p).2 := by
  induction batch generalizing n p with
  | nil => exact ⟨rfl, h⟩
  | cons d rest ih =>
    obtain ⟨p', run, handles⟩ := w.handle_spec d p
    have here : d ∈ d :: rest := List.mem_cons_self ..
    have next : I (n + 1) p' := step n d p p' h (claimed.held d here) (claimed.topic d here)
      (claimed.partition d here) handles
    obtain ⟨count, done⟩ := ih (claimed.rest handles.spares) next
    simp only [serve, run]
    refine ⟨?_, ?_⟩
    · rw [count, List.length_cons, Nat.add_comm]
    · have sum : n + (d :: rest).length = n + 1 + rest.length := by
        rw [List.length_cons]
        omega
      rw [sum]
      exact done

/-- **A poll** keeps what the handling of each of its messages keeps, and answers how many there
were. -/
theorem poll_induction {I : Nat → MemoryPlant V → Prop} (w : Worker V) (p : MemoryPlant V)
    (start : I 0 (w.claimed p))
    (step : ∀ n d p p', I n p → Holds p.queue d → d.topic = w.topic →
      d.partition = w.partition → Handles w d p p' → I (n + 1) p') :
    (w.poll p).1 = .ok (w.batchOf p).length ∧ I (w.batchOf p).length (w.poll p).2 := by
  have claimed : w.Claimed (w.batchOf p) (w.claimed p).queue := w.claimed_claim p.queue
  obtain ⟨count, done⟩ := serve_induction step (w.batchOf p) claimed start
  rw [Nat.zero_add] at done
  rw [poll_eq]
  exact ⟨congrArg Except.ok count, done⟩

/-- A property that a worker keeps: with a batch that it claims, and with each message of it, which
counts. -/
structure Keeps (w : Worker V) (I : Nat → MemoryPlant V → Prop) : Prop where
  claim : ∀ n p, I n p → I n (w.claimed p)
  handle : ∀ n d p p', I n p → Holds p.queue d → d.topic = w.topic → d.partition = w.partition →
    Handles w d p p' → I (n + 1) p'

/-- **Each poll** keeps it then. -/
theorem Keeps.poll {I : Nat → MemoryPlant V → Prop} (keeps : w.Keeps I) {n : Nat}
    {p : MemoryPlant V} (h : I n p) : I (n + (w.batchOf p).length) (w.poll p).2 :=
  (w.poll_induction (I := fun k => I (n + k)) p (keeps.claim n p h)
    fun k d p p' => keeps.handle (n + k) d p p').2

/-- What is in flight after a batch was in flight before it, and did not belong to it. -/
theorem inFlight_serve {batch : List Delivery} {m : StoredMessage}
    (mem : m ∈ (w.serve batch p).2.queue.messages) (flying : m.inFlight = true) :
    m ∈ p.queue.messages ∧ m.id ∉ batch.map Delivery.id := by
  induction batch generalizing p with
  | nil => exact ⟨mem, by simp⟩
  | cons d rest ih =>
    obtain ⟨p', run, handles⟩ := w.handle_spec d p
    simp only [serve, run] at mem
    obtain ⟨between, apart⟩ := ih mem
    obtain ⟨before, other⟩ := handles.inFlight between flying
    refine ⟨before, ?_⟩
    rw [List.map_cons, List.mem_cons, not_or]
    exact ⟨other, apart⟩

/-- **A poll leaves no message in flight** that was not so before. -/
theorem inFlight_poll {m : StoredMessage} (mem : m ∈ (w.poll p).2.queue.messages)
    (flying : m.inFlight = true) : m ∈ p.queue.messages := by
  rw [poll_eq] at mem
  obtain ⟨claimed, apart⟩ := inFlight_serve mem flying
  exact (MemoryQueue.inFlight_claim claimed).resolve_right apart

/-- A poll that answers zero has found nothing and changed nothing. -/
theorem poll_of_batch_nil (none : w.batchOf p = []) : w.poll p = (.ok 0, p) := by
  have same : w.claimed p = p := by
    rw [claimed, (MemoryQueue.claim_eq_nil w.batch_pos none).2]
  rw [poll_eq, none, same]
  rfl

end Worker

end Conveyor
