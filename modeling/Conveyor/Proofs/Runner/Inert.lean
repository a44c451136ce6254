import Conveyor.Proofs.Runner.Reach

/-!
# Dropped tasks

A task that was dropped is over, wherever its messages are: a worker that claims one of them lets it
go after a look at the record, so that nothing becomes of it any more.  Nothing else that is done
with a plant touches the task, short of submitting it again.

* `Chore` — an operation or a drain; `Plant.operations` are the operations of which chores consist.
* `Resting` — a plant in which the record and the notifications of a task are still those that they
  were; **`Resting.run`** says that operations leave it so, and **`Resting.silent`** that they log
  nothing about the task.
* `Worker.gone_of_batch` — what a poll claims, it acknowledges.
* `Inert`, **`inert_of_dropped`** — what becomes of a dropped task, whatever is done.
-/

namespace Conveyor

variable {V : Type}

/-! ## Chores -/

section

variable [Clock V]

/-- A plant after operations, the latest of which comes first; for a plant whose stores are empty,
this is `plantAfter`. -/
def Plant.after (p : MemoryPlant V) (ops : List (Operation V)) : MemoryPlant V :=
  ops.foldr Operation.run p

/-- What operations on a plant add to its log. -/
def Plant.log (p : MemoryPlant V) : List (Operation V) → List Entry
  | [] => []
  | op :: earlier => p.log earlier ++ op.entries (p.after earlier)

/-- What is done with a plant: an operation, or a drain. -/
inductive Chore (V : Type) : Type 1 where
  | act (op : Operation V)
  | drain (r : Runner V)

namespace Chore

def run : Chore V → MemoryPlant V → MemoryPlant V
  | act op, p => op.run p
  | drain r, p => (r.drain p).2

/-- The operations of which a chore consists, the latest first. -/
def operations (p : MemoryPlant V) : Chore V → List (Operation V)
  | act op => [op]
  | drain r => ((r.polls p).map Operation.poll).reverse

theorem after_operations (chore : Chore V) (p : MemoryPlant V) :
    p.after (chore.operations p) = chore.run p := by
  cases chore with
  | act op => rfl
  | drain r =>
    obtain ⟨k, drained⟩ := r.drainWithin_eq (r.horizon p + 1) p
    have drained : (r.drain p).2 = p.polled (r.polls p) := congrArg Prod.snd drained
    rw [run, drained, operations, Plant.after, List.foldr_reverse, List.foldl_map]
    rfl

end Chore

namespace Plant

/-- A plant after chores, the latest of which comes first. -/
def doing (p : MemoryPlant V) (chores : List (Chore V)) : MemoryPlant V := chores.foldr Chore.run p

/-- The operations of which chores consist, the latest first. -/
def operations (p : MemoryPlant V) : List (Chore V) → List (Operation V)
  | [] => []
  | chore :: earlier => chore.operations (p.doing earlier) ++ p.operations earlier

theorem after_operations (p : MemoryPlant V) (chores : List (Chore V)) :
    p.after (p.operations chores) = p.doing chores := by
  induction chores with
  | nil => rfl
  | cons chore earlier ih =>
    rw [operations, after, List.foldr_append, ← after, ← after, ih, chore.after_operations]
    rfl

end Plant

end

/-! ## Chores that spare a task -/

/-- An operation does not submit a task, and runs only stages that keep the task of a record. -/
def Operation.Spares (id : TaskId) : Operation V → Prop
  | .submit _ task => task.id ≠ id
  | .poll w => w.stage.KeepsTask
  | _ => True

def Chore.Spares (id : TaskId) : Chore V → Prop
  | .act op => op.Spares id
  | .drain r => ∀ w ∈ r.workers, w.stage.KeepsTask

/-- A chore on some topologies. -/
def Chore.Within (topologies : List (Topology V)) : Chore V → Prop
  | .act op => op.Within topologies
  | .drain r => r.Serves topologies

section

variable [Clock V] {topologies : List (Topology V)} {id : TaskId} {chores : List (Chore V)}
  {p : MemoryPlant V}

theorem Chore.Spares.operations {chore : Chore V} (spares : chore.Spares id) (p : MemoryPlant V) :
    ∀ op ∈ chore.operations p, op.Spares id := by
  intro op mem
  cases chore with
  | act own =>
    obtain rfl := List.mem_singleton.1 mem
    exact spares
  | drain r =>
    obtain ⟨w, poll, rfl⟩ := List.mem_map.1 (List.mem_reverse.1 mem)
    exact spares w (Runner.mem_pollsWithin poll)

theorem Plant.spares_operations (spares : ∀ chore ∈ chores, chore.Spares id) (p : MemoryPlant V) :
    ∀ op ∈ p.operations chores, op.Spares id := by
  induction chores with
  | nil => exact fun op mem => absurd mem List.not_mem_nil
  | cons chore earlier ih =>
    obtain ⟨here, before⟩ := List.forall_mem_cons.1 spares
    intro op mem
    rcases List.mem_append.1 mem with now | mem
    · exact here.operations _ op now
    · exact ih before op mem

/-- **Chores on the topologies** lead from a plant that can be reached to another. -/
theorem Reached.doing (h : Reached topologies p)
    (within : ∀ chore ∈ chores, chore.Within topologies) :
    Reached topologies (p.doing chores) := by
  induction chores with
  | nil => exact h
  | cons chore earlier ih =>
    obtain ⟨here, before⟩ := List.forall_mem_cons.1 within
    have reached := ih before
    cases chore with
    | act op => exact reached.run here
    | drain r =>
      obtain ⟨k, q, -, drained, after, -⟩ := reached.drain here
      show Reached topologies (r.drain (p.doing earlier)).2
      rw [drained]
      exact after

end

/-! ## A task at rest -/

/-- An entry is about a task. -/
def Entry.About (id : TaskId) : Entry → Prop
  | entered m => m.envelope.taskId = id
  | visited v => v.message.envelope.taskId = id ∨ ∃ m, v.onward = some m ∧ m.envelope.taskId = id

/-- The record of a task and the notifications about it are as they were. -/
structure Resting (id : TaskId) (info : TaskInfo) (notices : List Notification)
    (p : MemoryPlant V) : Prop where
  record : p.progress id = some info
  notices : (p.entries.filter fun n => n.taskId = id) = notices

namespace Tracker

/-- What a call announces is about its task. -/
theorem Call.taskId_of_announced {c : Call} {n : Notification} (h : n ∈ c.announced) :
    n.taskId = c.task := by
  cases c with
  | failed | deleted =>
    obtain rfl := List.mem_singleton.1 h
    rfl
  | _ => cases h

/-- What is neither counted nor expected leaves a task that is done as it is. -/
theorem Change.revise_of_done {change : Change} {now : Timestamp} {t : TaskInfo}
    (lawful : change.Lawful) (done : t.state.isTerminal = true)
    (other : ∀ n, change ≠ .expect n) : change.revise now t = t := by
  have idle : t.isActive = false := by simp [TaskInfo.isActive, done]
  cases change with
  | count counter =>
    rw [revise_of_checks rfl, own_count, idle]
    exact TaskInfo.settled_of_terminal done
  | expect n => exact absurd rfl (other n)
  | warn reason =>
    rw [revise_of_checks rfl, own_warn, idle]
    exact TaskInfo.settled_of_terminal done
  | move sources target description =>
    have apart : t.state ∉ sources := fun mem => by
      simp [(lawful _ mem).not_terminal] at done
    rw [revise_move, if_neg apart]

end Tracker

namespace Resting

variable {id : TaskId} {info : TaskInfo} {notices : List Notification} {p p' : MemoryPlant V}
  {c : Tracker.Call}

/-- Only the tracker matters. -/
theorem congr (h : Resting id info notices p) (same : p'.tracker = p.tracker) :
    Resting id info notices p' := by
  obtain ⟨record, told⟩ := h
  rw [Plant.progress, ← same] at record
  rw [Plant.entries, ← same] at told
  exact ⟨record, told⟩

/-- A call about another task leaves a task at rest. -/
theorem told_of_ne (h : Resting id info notices p) (apart : c.task ≠ id) :
    Resting id info notices (p.told c) where
  record := by rw [Plant.progress_told, if_neg apart, h.record]
  notices := by
    have others : (c.announced.filter fun n => n.taskId = id) = [] := by
      refine List.filter_eq_nil_iff.2 fun n mem own => apart ?_
      rw [← Tracker.Call.taskId_of_announced mem]
      exact of_decide_eq_true own
    rw [Plant.entries_told, List.filter_append, others, List.append_nil, h.notices]

/-- So does a call that moves or warns, if the task is done. -/
theorem told_of_done (h : Resting id info notices p) (done : info.state.isTerminal = true)
    {change : Tracker.Change} (does : c.change? = some change) (other : ∀ n, change ≠ .expect n)
    (silent : c.announced = []) : Resting id info notices (p.told c) where
  record := by
    rw [Plant.progress_told, h.record]
    split
    · have after : c.after (some info) = some (change.revise c.now info) := by
        rw [Tracker.Call.after, does]
        rfl
      rw [after, Tracker.Change.revise_of_done (Tracker.Call.lawful_change does) done other]
    · rfl
  notices := by rw [Plant.entries_told, silent, List.append_nil, h.notices]

end Resting

/-! ## What operations do to a task at rest -/

namespace Resting

variable [Clock V] {id : TaskId} {info : TaskInfo} {notices : List Notification}
  {p p' : MemoryPlant V} {w : Worker V} {d : Delivery}

section

variable (dropped : info.state = .dropped) (keeps : w.stage.KeepsTask)

include dropped keeps

theorem handles (h : Resting id info notices p) (handles : Worker.Handles w d p p') :
    Resting id info notices p' := by
  cases handles with
  | void => exact h.congr rfl
  | onward => exact h.congr rfl
  | @ended outcome services live run leaves =>
    have kept := keeps.run d.envelope p.services
    rw [run] at kept
    have apart : d.envelope.taskId ≠ id := by
      rintro rfl
      exact live info h.record dropped
    have other : (Worker.ending (Clock.now services) d.envelope.taskId outcome).task ≠ id := by
      rw [Worker.task_ending _ kept]
      exact apart
    exact (h.told_of_ne other).congr rfl

theorem handle (h : Resting id info notices p) (d : Delivery) :
    Resting id info notices (w.handle d p).2 := by
  obtain ⟨p', run, handles⟩ := w.handle_spec d p
  rw [run]
  exact h.handles dropped keeps handles

/-- A message of the task is not visited, nor is one handed on. -/
theorem visit (h : Resting id info notices p) {v : Visit} (visited : w.visit d p = some v) :
    ¬ (Entry.visited v).About id := by
  have apart : d.envelope.taskId ≠ id := by
    rintro rfl
    rw [Worker.visit, Worker.examine_of_dropped h.record dropped] at visited
    cases visited
  obtain ⟨p', handled, handles⟩ := w.handle_spec d p
  have gained : ∀ m ∈ MemoryQueue.gained p.queue p'.queue,
      m.envelope.taskId = d.envelope.taskId := by
    intro m mem
    cases handles with
    | void =>
      rw [MemoryQueue.gained_ack, MemoryQueue.gained_self] at mem
      cases mem
    | @onward topic e services live run next =>
      rw [MemoryQueue.gained_ack, MemoryQueue.gained_publish] at mem
      obtain rfl := List.mem_singleton.1 (List.mem_of_mem_filter mem)
      have kept := keeps.run d.envelope p.services
      rw [run] at kept
      exact kept
    | ended =>
      rw [MemoryQueue.gained_ack, MemoryQueue.gained_self] at mem
      cases mem
  rw [Worker.visit] at visited
  split at visited
  · obtain rfl := Option.some.inj visited
    rintro (own | ⟨m, onward, own⟩)
    · exact apart own
    · rw [handled] at onward
      rw [gained m (List.mem_of_mem_head? onward)] at own
      exact apart own
  · cases visited

theorem visits (h : Resting id info notices p) (batch : List Delivery) :
    ∀ v ∈ w.visits batch p, ¬ (Entry.visited v).About id := by
  induction batch generalizing p with
  | nil => exact fun v mem => absurd mem List.not_mem_nil
  | cons d rest ih =>
    intro v mem
    rcases List.mem_append.1 mem with here | later
    · exact h.visit dropped keeps (Option.mem_toList.1 here)
    · exact ih (h.handle dropped keeps d) v later

end

variable (dropped : info.state = .dropped)

include dropped

/-- A worker keeps a task at rest. -/
theorem keeps (own : w.stage.KeepsTask) : w.Keeps fun _ => Resting id info notices where
  claim _ _ h := h.congr rfl
  handle _ _ _ _ h _ _ _ handles := h.handles dropped own handles

/-- A request about a task that is done comes to nothing. -/
theorem report {α : Type} {x : Timestamp → Action MemoryTracker StoreError α}
    (h : Resting id info notices p) (c : Tracker.Call) {change : Tracker.Change}
    {form : α → Tracker.Answer} (same : c.run = form <$> x (Clock.now p))
    (does : c.change? = some change) (other : ∀ n, change ≠ .expect n) (silent : c.announced = []) :
    Resting id info notices (Plant.report x p).2 := by
  obtain ⟨a, told⟩ := Plant.report_of_map p same does
  have done : info.state.isTerminal = true := by rw [dropped]; rfl
  rw [told]
  exact h.told_of_done done does other silent

/-- **An operation that spares a task** leaves it at rest if it was dropped. -/
theorem run (h : Resting id info notices p) {op : Operation V} (spares : op.Spares id) :
    Resting id info notices (op.run p) := by
  cases op with
  | submit s task =>
    refine Submitter.keeps_submit task (fun p c own h => ?_) (fun p v h => h.congr rfl) s
      (fun topology p r found h => h.congr rfl) p h
    exact h.told_of_ne (own ▸ spares)
  | poll w =>
    exact (keeps dropped spares).poll (n := 0) h
  | dropTask task reason =>
    exact h.report dropped (.dropTask (Clock.now p) task reason) rfl rfl nofun rfl
  | failTask task reason =>
    exact h.report dropped (.failTask (Clock.now p) task reason) rfl rfl nofun rfl
  | fatal task reason =>
    exact h.report dropped (.fatal (Clock.now p) task reason) rfl rfl nofun rfl
  | sweep registry =>
    refine sweep_induction (I := Resting id info notices) registry (fun p v h => h.congr rfl)
      (fun p now task reason h => ?_) h
    have done : info.state.isTerminal = true := by rw [dropped]; rfl
    exact h.told_of_done done rfl nofun rfl
  | elapse change => exact h.congr rfl

/-- **Nothing about the task is logged.** -/
theorem silent (h : Resting id info notices p) {op : Operation V} (spares : op.Spares id) :
    ∀ entry ∈ op.entries p, ¬ entry.About id := by
  intro entry mem
  cases op with
  | submit s task =>
    obtain ⟨m, gained, rfl⟩ := List.mem_map.1 mem
    have own := s.taskId_of_gained task p m gained
    exact fun about => spares (own.symm.trans about)
  | poll w =>
    obtain ⟨v, visited, rfl⟩ := List.mem_map.1 mem
    have claimed : Resting id info notices (w.claimed p) := h.congr rfl
    exact claimed.visits dropped spares (w.batchOf p) v visited
  | _ => cases mem

/-- **Operations that spare the task**, one after another. -/
theorem after (h : Resting id info notices p) {ops : List (Operation V)}
    (spares : ∀ op ∈ ops, op.Spares id) :
    Resting id info notices (p.after ops) ∧ ∀ entry ∈ p.log ops, ¬ entry.About id := by
  induction ops with
  | nil => exact ⟨h, fun entry mem => absurd mem List.not_mem_nil⟩
  | cons op earlier ih =>
    obtain ⟨here, before⟩ := List.forall_mem_cons.1 spares
    obtain ⟨rests, quiet⟩ := ih before
    refine ⟨rests.run dropped here, fun entry mem => ?_⟩
    rcases List.mem_append.1 mem with mem | mem
    · exact quiet entry mem
    · exact rests.silent dropped here entry mem

end Resting

/-! ## Dropped tasks -/

section

variable [Clock V]

/-- What a poll claims, it acknowledges. -/
theorem Worker.gone_of_batch (w : Worker V) {p : MemoryPlant V} {d : Delivery}
    (claimed : d ∈ w.batchOf p) : ∀ m ∈ (w.poll p).2.queue.messages, m.id ≠ d.id := by
  rintro m mem same
  obtain ⟨held, there, -, rfl⟩ := (Holds.of_claim claimed).1
  rcases (w.visits_poll p).messages m mem with ⟨-, apart⟩ | fresh
  · exact apart (same ▸ List.mem_map_of_mem claimed)
  · have given := (w.claimed p).queue.given _ (List.mem_map_of_mem there)
    have value : m.id.value = held.id.value := congrArg MessageId.value same
    omega

/-- What becomes of a dropped task while chores are done with a plant. -/
structure Inert (p : MemoryPlant V) (id : TaskId) (chores : List (Chore V)) : Prop where
  /-- Its record stays as it was. -/
  record : (p.doing chores).progress id = p.progress id
  /-- Nothing is announced about it. -/
  notices : ((p.doing chores).entries.filter fun n => n.taskId = id)
    = p.entries.filter fun n => n.taskId = id
  /-- No stage visits a message of it, and none is published. -/
  silent : ∀ entry ∈ p.log (p.operations chores), ¬ entry.About id
  /-- A poll answers, and a message of it that the poll claims is acknowledged. -/
  acknowledged : ∀ later w earlier, p.operations chores = later ++ .poll w :: earlier →
    ∃ k q, w.poll (p.after earlier) = (.ok k, q) ∧
      ∀ d ∈ w.batchOf (p.after earlier), d.envelope.taskId = id →
        ∀ m ∈ q.queue.messages, m.id ≠ d.id
  /-- Polling until nothing is found ends, a drain is the same, and no message of it waits on the
  topics of the runner any more. -/
  drained : ∀ later r earlier, chores = later ++ .drain r :: earlier →
    ∃ k q, r.Drains (p.doing earlier) k q ∧ r.drain (p.doing earlier) = (.ok k, q) ∧
      ∀ m ∈ q.queue.messages, m.envelope.taskId = id → m.topic ∈ r.topics → m.inFlight = true

/-- **A dropped task is inert**, wherever its messages are and whatever is done, short of submitting
it again. -/
theorem inert_of_dropped {topologies : List (Topology V)} {p : MemoryPlant V}
    (reached : Reached topologies p) {id : TaskId} {info : TaskInfo}
    (known : p.progress id = some info) (dropped : info.state = .dropped) {chores : List (Chore V)}
    (spares : ∀ chore ∈ chores, chore.Spares id)
    (within : ∀ chore ∈ chores, chore.Within topologies) : Inert p id chores := by
  have start : Resting id info (p.entries.filter fun n => n.taskId = id) p := ⟨known, rfl⟩
  obtain ⟨rests, quiet⟩ := start.after dropped (p.spares_operations spares)
  rw [p.after_operations] at rests
  refine ⟨rests.record.trans known.symm, rests.notices, quiet, ?_, ?_⟩
  · intro later w earlier _
    exact ⟨_, _, Runner.poll_eq_ok w _, fun d claimed _ => w.gone_of_batch claimed⟩
  · rintro later r earlier rfl
    have before : ∀ chore ∈ earlier, chore.Within topologies := fun chore mem =>
      within chore (List.mem_append_right _ (List.mem_cons_of_mem _ mem))
    have serves : r.Serves topologies :=
      within (.drain r) (List.mem_append_right _ List.mem_cons_self)
    obtain ⟨k, q, drains, drained, -, nothing⟩ := (reached.doing before).drain serves
    exact ⟨k, q, drains, drained, fun m mem _ => nothing m mem⟩

end

/-! ## A task that is dropped among others -/

def relayRunner : Runner (Timed Unit) := Runner.new [relayTopology] 1 2

def otherTask : Task := (Task.new ⟨8⟩ "two others" "copy").withInput (.resources ["c", "d"])

/-- A task is dropped while its records and those of another are out. -/
def droppedAmongOthers : MemoryPlant (Timed Unit) :=
  plantAfter (Timed.start .epoch ()) [.dropTask ⟨7⟩ "not wanted any more",
    .submit relaySubmitter otherTask, .submit relaySubmitter relayTask]

/-- A poll, a drain, and the submission of a third task that is drained as well. -/
def relayChores : List (Chore (Timed Unit)) :=
  [.drain relayRunner, .act (.submit relaySubmitter { otherTask with id := ⟨9⟩ }),
    .drain relayRunner, .act (.poll relayWorker)]

theorem spares_relayRunner (id : TaskId) : (Chore.drain relayRunner).Spares id := by
  intro w mem
  obtain ⟨topology, before, after, stages, -⟩ := Runner.mem_workers_new mem
  have here : w.stage ∈ w.topology.stages := by
    rw [stages]
    exact List.mem_append_right _ List.mem_cons_self
  rw [List.mem_singleton.1 topology] at here
  rw [List.mem_singleton.1 (show w.stage ∈ [relay] from here)]
  exact keepsTask_relay

theorem within_submit_relay (task : Task) :
    (Operation.submit relaySubmitter task).Within [relayTopology] := by
  intro t found
  rw [relaySubmitter, Dict.get?_insert] at found
  split at found
  · exact List.mem_singleton.2 (Option.some.inj found).symm
  · cases found

/-- Both records of the dropped task are out, and it is inert. -/
theorem inert_among_others :
    droppedAmongOthers.queue.out ⟨7⟩ = 2 ∧ Inert droppedAmongOthers ⟨7⟩ relayChores := by
  have reached : Reached [relayTopology] droppedAmongOthers := by
    refine reached_after _ fun op mem => ?_
    simp only [List.mem_cons, List.not_mem_nil, or_false] at mem
    rcases mem with rfl | rfl | rfl
    · trivial
    · exact within_submit_relay otherTask
    · exact within_submit_relay relayTask
  have state : (droppedAmongOthers.progress ⟨7⟩).any (·.state = .dropped) = true := by
    decide +kernel
  obtain ⟨info, known, dropped⟩ := (Option.any_eq_true _ _).1 state
  have serves : relayRunner.Serves [relayTopology] :=
    ⟨[relayTopology], 1, 2, rfl, fun _ mem => mem, fun _ mem => .inl mem⟩
  refine ⟨by decide +kernel, inert_of_dropped reached known (of_decide_eq_true dropped) ?_ ?_⟩
  · intro chore mem
    simp only [relayChores, List.mem_cons, List.not_mem_nil, or_false] at mem
    rcases mem with rfl | rfl | rfl | rfl
    · exact spares_relayRunner _
    · exact show (⟨9⟩ : TaskId) ≠ ⟨7⟩ by decide
    · exact spares_relayRunner _
    · exact keepsTask_relay
  · intro chore mem
    simp only [relayChores, List.mem_cons, List.not_mem_nil, or_false] at mem
    rcases mem with rfl | rfl | rfl | rfl
    · exact serves
    · exact within_submit_relay _
    · exact serves
    · exact ⟨List.mem_singleton_self _, nofun⟩

end Conveyor
