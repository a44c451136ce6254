import Conveyor.Monitor
import Conveyor.Proofs.Runner.Account
import Conveyor.Proofs.Runner.Sweep
import Conveyor.Proofs.Submission.Publication

/-!
# Conservation of records

No record is lost and none is counted twice.  Of the records that were published for a task, each
is out in a message or is counted, as long as the task is in progress; once the task was completed,
each is counted.  Only a task that ended ahead of time may leave records behind.

* `Operation` — what can be done with a plant; `plantAfter` is the plant after a history of
  operations, the latest first, that begins with empty stores.
* `published` — how many records the submission of a task has published.
* `Completed` — that a task was completed, and not ended ahead of time.
* **`Operation.moves_run`** — what an operation enters in the account of a task which it does not
  submit.
* **`conservation`** — the balance of every task after every history.
-/

namespace Conveyor

variable {V : Type} [Clock V]

/-! ## Operations -/

/-- What can be done with a plant. -/
inductive Operation (V : Type) : Type 1 where
  | submit (s : Submitter V) (task : Task)
  | poll (w : Worker V)
  | dropTask (id : TaskId) (reason : String)
  | failTask (id : TaskId) (reason : String)
  | fatal (id : TaskId) (reason : String)
  | sweep (registry : RunRegistry V)
  /-- Something goes on in the services. -/
  | elapse (change : V → V)

namespace Operation

/-- The plant after an operation. -/
def run : Operation V → MemoryPlant V → MemoryPlant V
  | submit s task, p => (s.submit task p).2
  | poll w, p => (w.poll p).2
  | dropTask id reason, p => (Plant.report (fun now => Tracker.dropTask now id reason) p).2
  | failTask id reason, p => (Plant.report (fun now => Tracker.failTask now id reason) p).2
  | fatal id reason, p => (Plant.report (fun now => Tracker.fatal now id reason) p).2
  | sweep registry, p => (Monitor.sweep registry p).2
  | elapse change, p => { p with services := change p.services }

/-- The task that an operation submits. -/
def submitted? : Operation V → Option TaskId
  | submit _ task => some task.id
  | _ => none

/-- Whether an operation, done with a plant, is to end tasks ahead of time: a request to drop or to
fail a task, a sweep, or a submission that is not accepted. -/
def aborts : Operation V → MemoryPlant V → Prop
  | submit s task, p => ∀ submission, (s.submit task p).1 ≠ .ok submission
  | dropTask .., _ | failTask .., _ | sweep _, _ => True
  | _, _ => False

/-- Submissions to topologies that are not chained, and workers whose stages keep the task. -/
def Admissible : Operation V → Prop
  | submit s task => ∀ topology, s.topologies.get? task.topology = some topology →
      topology.chained = false
  | poll w => w.stage.KeepsTask
  | _ => True

end Operation

/-- The plant after a history of operations, the latest first; at first its stores are empty. -/
def plantAfter (start : V) : List (Operation V) → MemoryPlant V
  | [] => ⟨.empty, .empty, start⟩
  | op :: earlier => op.run (plantAfter start earlier)

/-- How many records were published when a task was submitted. -/
def published (start : V) (id : TaskId) : List (Operation V) → Nat
  | [] => 0
  | op :: earlier => published start id earlier +
      if op.submitted? = some id then
        (plantAfter start (op :: earlier)).queue.issued - (plantAfter start earlier).queue.issued
      else 0

/-- A task was completed: it became done by an operation that was not to end it ahead of time. -/
def Completed (start : V) (id : TaskId) : List (Operation V) → Prop
  | [] => False
  | op :: earlier => Completed start id earlier ∨
      (¬ op.aborts (plantAfter start earlier) ∧
        ¬ ((plantAfter start earlier).account id).isDone = true ∧
        ((plantAfter start (op :: earlier)).account id).isDone = true)

/-! ## Sweeps -/

section

variable {V : Type}

theorem livenessOf_apply (registry : RunRegistry V) (known : Dict Bool) (owner : String)
    (p : MemoryPlant V) : ∃ answer services,
      Monitor.livenessOf registry known owner p
        = (.ok answer, { p with services := services }) := by
  cases here : known.get? owner with
  | some alive => exact ⟨_, p.services, Monitor.livenessOf_of_known registry p here⟩
  | none => exact ⟨_, _, Monitor.livenessOf_of_unknown registry p here⟩

end

/-- **A sweep** keeps what the services and the failing of a task keep. -/
theorem sweep_induction {I : MemoryPlant V → Prop} (registry : RunRegistry V)
    (services : ∀ p v, I p → I { p with services := v })
    (fail : ∀ p now id reason, I p → I (p.told (.failTask now id reason)))
    {p : MemoryPlant V} (h : I p) : I (Monitor.sweep registry p).2 := by
  have tasks : ∀ (tasks : List TaskInfo) (known : Dict Bool) (p : MemoryPlant V), I p →
      I (Monitor.sweepTasks registry tasks known p).2 := by
    intro tasks
    induction tasks with
    | nil => exact fun _ _ h => h
    | cons task rest ih =>
      intro known p h
      rw [Monitor.sweepTasks]
      cases task.owner with
      | none => exact ih known p h
      | some owner =>
        obtain ⟨⟨alive, known'⟩, v, liveness⟩ := livenessOf_apply registry known owner p
        have looked := services p v h
        simp only
        rw [Action.bind_of_ok liveness]
        by_cases gone : alive = some false
        · obtain ⟨failed, told⟩ := Plant.report_of_map
            (x := fun now => Tracker.failTask now task.id (Monitor.goneReason owner))
            (c := .failTask (Clock.now v) task.id (Monitor.goneReason owner))
            { p with services := v } rfl rfl
          simp only [gone, if_true]
          rw [Action.bind_of_ok told, Action.snd_bind_pure]
          exact ih known' _ (fail _ _ _ _ looked)
        · simp only [gone, if_false]
          exact ih known' _ looked
  rw [Monitor.sweep]
  exact tasks _ Dict.empty p h

/-! ## What an operation enters in an account -/

section

variable {V : Type} {p : MemoryPlant V} {may : Prop} {c : Tracker.Call}

theorem moves_abort {target : TaskState} {description : String}
    (h : c.change? = some (.move TaskState.active target description))
    (ends : target = .dropped ∨ target = .failed) (allowed : may) (id : TaskId) :
    Relation.ReflTransGen (Account.Move may) (p.account id) ((p.told c).account id) := by
  rw [Plant.account_told h]
  split
  · exact .single (.abort _ _ _ _ ends allowed)
  · exact .refl

theorem moves_warn {reason : String} (h : c.change? = some (.warn reason)) (id : TaskId) :
    Relation.ReflTransGen (Account.Move may) (p.account id) ((p.told c).account id) := by
  rw [Plant.account_told h]
  split
  · exact .single (.warn _ _ _ _)
  · exact .refl

end

/-- **The records of an accepted task** are out, and the task is in progress; the accounts of all
other tasks stay as they are. -/
theorem Submitter.account_published (s : Submitter V) (topology : Topology V) {task : Task}
    (records : List SourceRecord) (services : V) {p : MemoryPlant V}
    (free : task.restart = true ∨ p.progress task.id = none) (id : TaskId) :
    (s.published topology task records services p).account id
      = if task.id = id then
          ⟨p.queue.out id + records.length, some (s.begun topology task (Clock.now p))⟩
        else p.account id := by
  have out := out_publishing topology task records p.queue id
  have progress := progress_accepted s topology free id
  by_cases own : task.id = id
  · rw [if_pos own] at out progress ⊢
    exact congrArg₂ Account.mk out progress
  · rw [if_neg own, Nat.add_zero] at out
    rw [if_neg own] at progress ⊢
    exact congrArg₂ Account.mk out progress

/-- **A submission** leaves the accounts of all other tasks alone. -/
theorem account_submit_of_ne {s : Submitter V} {task : Task} {p : MemoryPlant V} {id : TaskId}
    (admissible : (Operation.submit s task).Admissible) (apart : task.id ≠ id) :
    (s.submit task p).2.account id = p.account id := by
  cases found : s.topologies.get? task.topology with
  | none => rw [Submitter.submit_of_unknown found]
  | some topology =>
    have unchained := admissible topology found
    by_cases free : task.restart = true ∨ p.progress task.id = none
    · have untouched : ∀ records services,
          (s.published topology task records services p).account id = p.account id := by
        intro records services
        rw [s.account_published topology records services free, if_neg apart]
      cases told : (s.source task).tell p.services with
      | mk records services error =>
        cases error with
        | none =>
          rw [Submitter.submit_of_told found unchained free told, Plant.account_told_of_ne
            (c := .setExpected (Clock.now services) task.id records.length) apart, untouched]
        | some err =>
          rw [Submitter.submit_of_broken found unchained free told, Plant.account_told_of_ne
            (c := .failTask (Clock.now services) task.id _) apart, untouched]
    · push Not at free
      obtain ⟨restart, known⟩ := free
      obtain ⟨t, known⟩ := Option.ne_none_iff_exists'.1 known
      rw [Submitter.submit_of_taken found unchained (by simpa using restart) known]

/-- **What an operation enters** in the account of a task which it does not submit. -/
theorem Operation.moves_run {op : Operation V} (admissible : op.Admissible) {id : TaskId}
    (other : op.submitted? ≠ some id) (p : MemoryPlant V) :
    Relation.ReflTransGen (Account.Move (op.aborts p)) (p.account id) ((op.run p).account id) := by
  cases op with
  | submit s task =>
    have apart : task.id ≠ id := fun same => other (congrArg some same)
    rw [run, account_submit_of_ne admissible apart]
  | poll w =>
    exact Relation.ReflTransGen.mono (fun a b => Account.Move.entry (a := a) (b := b)) _ _
      (w.entries_poll admissible p id)
  | dropTask task reason =>
    obtain ⟨a, told⟩ := Plant.report_of_map
      (x := fun now => Tracker.dropTask now task reason)
      (c := .dropTask (Clock.now p) task reason) p rfl rfl
    rw [run, told]
    exact moves_abort rfl (.inl rfl) trivial id
  | failTask task reason =>
    obtain ⟨a, told⟩ := Plant.report_of_map
      (x := fun now => Tracker.failTask now task reason)
      (c := .failTask (Clock.now p) task reason) p rfl rfl
    rw [run, told]
    exact moves_abort rfl (.inr rfl) trivial id
  | fatal task reason =>
    obtain ⟨a, told⟩ := Plant.report_of_map
      (x := fun now => Tracker.fatal now task reason)
      (c := .fatal (Clock.now p) task reason) p rfl rfl
    rw [run, told]
    exact moves_warn rfl id
  | sweep registry =>
    refine sweep_induction (I := fun q =>
      Relation.ReflTransGen (Account.Move True) (p.account id) (q.account id)) registry
      (fun _ _ h => h) ?_ .refl
    intro q now task reason so_far
    exact so_far.trans (moves_abort rfl (.inr rfl) trivial id)
  | elapse change => exact .refl

/-! ## The submission of a task -/

/-- What a submission makes of a task that was not known: nothing, or a task in balance, and only
if it was not accepted has the task ended ahead of time. -/
theorem balanced_submit {s : Submitter V} {task : Task} {p : MemoryPlant V}
    (admissible : (Operation.submit s task).Admissible) (unknown : p.account task.id = ⟨0, none⟩) :
    ((s.submit task p).2.account task.id).Balanced
      ((s.submit task p).2.queue.issued - p.queue.issued)
      ((Operation.submit s task).aborts p) := by
  have none : p.progress task.id = none := congrArg Account.record unknown
  have empty : p.queue.out task.id = 0 := congrArg Account.out unknown
  cases found : s.topologies.get? task.topology with
  | none =>
    rw [Submitter.submit_of_unknown found, unknown, Nat.sub_self]
    exact ⟨rfl, rfl⟩
  | some topology =>
    have unchained := admissible topology found
    have free : task.restart = true ∨ p.progress task.id = Option.none := .inr none
    cases told : (s.source task).tell p.services with
    | mk records services error =>
      have account : (s.published topology task records services p).account task.id
          = ⟨records.length, some (s.begun topology task (Clock.now p))⟩ := by
        rw [s.account_published topology records services free, if_pos rfl, empty, Nat.zero_add]
      have issued : (s.published topology task records services p).queue.issued - p.queue.issued
          = records.length := by
        have issued := issued_publishing topology task records p.queue
        show (publishing topology task records p.queue).issued - p.queue.issued = _
        omega
      cases error with
      | none =>
        rw [Submitter.submit_of_told found unchained free told,
          Plant.account_told_self
            (c := .setExpected (Clock.now services) task.id records.length) task.id rfl rfl,
          account, Plant.queue_told, issued]
        exact Balance.expect rfl rfl
      | some err =>
        have fails := Submitter.submit_of_broken found unchained free told
        have ahead : (Operation.submit s task).aborts p := by
          intro submission
          rw [fails]
          exact nofun
        rw [fails, Plant.account_told_self
            (c := .failTask (Clock.now services) task.id _) task.id rfl rfl,
          account, Plant.queue_told, issued]
        exact Balance.abort_of_processing rfl ahead (Int.le_refl _) (.inr rfl) _

/-! ## Histories -/

/-- A history in which every operation is admissible and no task is submitted twice. -/
structure Regular {V : Type} (history : List (Operation V)) : Prop where
  admissible : ∀ op ∈ history, op.Admissible
  distinct : (history.filterMap Operation.submitted?).Nodup

theorem Regular.tail {V : Type} {op : Operation V} {earlier : List (Operation V)}
    (h : Regular (op :: earlier)) : Regular earlier where
  admissible op mem := h.admissible op (List.mem_cons_of_mem _ mem)
  distinct := h.distinct.sublist ((List.sublist_cons_self op earlier).filterMap _)

section

variable (start : V) {op : Operation V} {earlier history : List (Operation V)} {id : TaskId}

theorem published_of_ne (other : op.submitted? ≠ some id) :
    published start id (op :: earlier) = published start id earlier := by
  rw [published, if_neg other, Nat.add_zero]

theorem account_of_not_submitted (regular : Regular history)
    (h : id ∉ history.filterMap Operation.submitted?) :
    (plantAfter start history).account id = ⟨0, none⟩ ∧ published start id history = 0 := by
  induction history with
  | nil => exact ⟨rfl, rfl⟩
  | cons op earlier ih =>
    have other : op.submitted? ≠ some id := fun same =>
      h (List.mem_filterMap.2 ⟨op, List.mem_cons_self .., same⟩)
    have rest : id ∉ earlier.filterMap Operation.submitted? := fun mem =>
      h (((List.sublist_cons_self op earlier).filterMap _).subset mem)
    obtain ⟨unknown, none⟩ := ih regular.tail rest
    have moves := Operation.moves_run (regular.admissible op (List.mem_cons_self ..)) other
      (plantAfter start earlier)
    rw [unknown] at moves
    refine ⟨Account.eq_of_moves_unknown moves, ?_⟩
    rw [published_of_ne start other, none]

/-- **Every account is in balance**, and that of a completed task without its having ended ahead of
time. -/
theorem balanced_after (regular : Regular history) (id : TaskId) :
    ((plantAfter start history).account id).Balanced (published start id history) True ∧
      (Completed start id history →
        ((plantAfter start history).account id).Balanced (published start id history) False ∧
          ((plantAfter start history).account id).isDone = true) := by
  induction history with
  | nil => exact ⟨⟨rfl, rfl⟩, False.elim⟩
  | cons op earlier ih =>
    have admissible := regular.admissible op (List.mem_cons_self ..)
    obtain ⟨balanced, completed⟩ := ih regular.tail
    by_cases own : op.submitted? = some id
    · -- the task is submitted now, so that nothing was known of it before
      have fresh : id ∉ earlier.filterMap Operation.submitted? := by
        have distinct := regular.distinct
        rw [List.filterMap_cons_some own] at distinct
        exact (List.nodup_cons.1 distinct).1
      obtain ⟨unknown, none⟩ := account_of_not_submitted start regular.tail fresh
      cases op with
      | submit s task =>
        obtain rfl : task.id = id := Option.some.inj own
        have submitted := balanced_submit admissible unknown
        have growth : published start task.id (.submit s task :: earlier)
            = (plantAfter start (.submit s task :: earlier)).queue.issued
              - (plantAfter start earlier).queue.issued := by
          rw [published, if_pos own, none, Nat.zero_add]
        rw [growth]
        refine ⟨submitted.weaken fun _ => trivial, ?_⟩
        rintro (before | ⟨accepted, -, done⟩)
        · have done := (completed before).2
          rw [unknown] at done
          cases done
        · exact ⟨submitted.weaken accepted, done⟩
      | _ => cases own
    · have moves := Operation.moves_run admissible own (plantAfter start earlier)
      rw [published_of_ne start own]
      refine ⟨(balanced.moves (fun _ => .inl trivial) moves).1, ?_⟩
      rintro (before | ⟨accepted, open_, done⟩)
      · obtain ⟨settled, done⟩ := completed before
        obtain ⟨after, stays⟩ := settled.moves (fun _ => .inr done) moves
        exact ⟨after, stays done⟩
      · have settled : Account.Balanced _ False _ := balanced.of_not_done open_
        exact ⟨(settled.moves (fun aborts => absurd aborts accepted) moves).1, done⟩

end

/-- The balance of all tasks after a history of operations. -/
structure Conservation (start : V) (history : List (Operation V)) : Prop where
  /-- No more records are out or counted than were published. -/
  bound : ∀ id, ((plantAfter start history).queue.out id : Int)
    + (((plantAfter start history).progress id).map TaskInfo.finished).getD 0
      ≤ published start id history
  /-- Of a task in progress, each record that was published is out or counted, that is how many are
  expected, and some are out. -/
  working : ∀ id t, (plantAfter start history).progress id = some t → t.state = .processing →
    ((plantAfter start history).queue.out id : Int) + t.finished = published start id history ∧
      t.expected = published start id history ∧ 1 ≤ (plantAfter start history).queue.out id
  /-- Of a task that is processed, each record that was published is counted. -/
  processed : ∀ id t, (plantAfter start history).progress id = some t → t.state = .processed →
    (plantAfter start history).queue.out id = 0 ∧ t.finished = published start id history
  /-- So it is of every task that was completed, whether it is processed or has failed. -/
  completed : ∀ id, Completed start id history → ∃ t,
    (plantAfter start history).progress id = some t ∧ t.state.isTerminal = true ∧
      (plantAfter start history).queue.out id = 0 ∧ t.finished = published start id history

/-- **No record is lost and none is counted twice**, whatever is done with a plant and in whatever
order. -/
theorem conservation (start : V) (history : List (Operation V)) (regular : Regular history) :
    Conservation start history := by
  have known : ∀ {id t}, (plantAfter start history).progress id = some t →
      Balance (published start id history) True ((plantAfter start history).queue.out id) t := by
    intro id t found
    have balanced := (balanced_after start regular id).1
    rw [Account.Balanced, Plant.account, found] at balanced
    exact balanced
  constructor
  · intro id
    cases found : (plantAfter start history).progress id with
    | none =>
      have balanced := (balanced_after start regular id).1
      rw [Account.Balanced, Plant.account, found] at balanced
      have none : (plantAfter start history).queue.out id = 0 := balanced.1
      rw [none, balanced.2]
      decide
    | some t => exact (known found).le
  · intro id t found processing
    exact (known found).working processing
  · intro id t found processed
    rcases (known found).ended (by rw [processed]; rfl) with done | ⟨-, apart, -⟩
    · exact done
    · exact absurd processed apart
  · intro id completed
    obtain ⟨balanced, done⟩ := (balanced_after start regular id).2 completed
    cases found : (plantAfter start history).progress id with
    | none =>
      rw [Account.isDone, Plant.account, found] at done
      cases done
    | some t =>
      rw [Account.isDone, Plant.account, found] at done
      rw [Account.Balanced, Plant.account, found] at balanced
      rcases balanced.ended done with all | ⟨never, -, -⟩
      · exact ⟨t, rfl, done, all⟩
      · exact never.elim

/-! ## A plant with one stage -/

/-- A stage that hands every record on as it is. -/
def relay : Stage (Timed Unit) := ⟨"relay", fun e => pure (.forward e)⟩

theorem keepsTask_relay : relay.KeepsTask := by
  intro e v outcome answer
  cases answer
  rfl

/-- A topology of that stage alone. -/
def relayTopology : Topology (Timed Unit) where
  name := "copy"
  partitions := 1
  chained := false
  entries := [⟨relay, ⟨none, Dict.empty⟩⟩]
  entries_ne_nil := List.cons_ne_nil _ _
  partitions_pos := Nat.one_pos
  names_nodup := List.nodup_singleton _

def relayWorker : Worker (Timed Unit) where
  topology := relayTopology
  stage := relay
  topic := relayTopology.entryTopic
  next := none
  partition := 0
  batch := 1
  batch_pos := Nat.one_pos

def relaySubmitter : Submitter (Timed Unit) where
  topologies := Dict.empty.insert "copy" relayTopology
  source := listedResources
  policy := .none
  owner := none

def relayTask : Task := (Task.new ⟨7⟩ "two records" "copy").withInput (.resources ["a", "b"])

/-- The task is submitted, and both of its records are dealt with. -/
def relayHistory : List (Operation (Timed Unit)) :=
  [.poll relayWorker, .poll relayWorker, .submit relaySubmitter relayTask]

theorem regular_relayHistory : Regular relayHistory where
  admissible op mem := by
    have submits : (Operation.submit relaySubmitter relayTask).Admissible := by
      intro topology found
      have only : relaySubmitter.topologies.get? relayTask.topology = some relayTopology := rfl
      rw [only] at found
      cases found
      rfl
    simp only [relayHistory, List.mem_cons, List.not_mem_nil, or_false] at mem
    rcases mem with rfl | rfl | rfl
    · exact keepsTask_relay
    · exact keepsTask_relay
    · exact submits
  distinct := by decide +kernel

/-- Two records are published and counted, and the task is complete. -/
theorem conservation_two_records :
    Regular relayHistory ∧ published (Timed.start .epoch ()) ⟨7⟩ relayHistory = 2 ∧
      Completed (Timed.start .epoch ()) ⟨7⟩ relayHistory ∧
      Conservation (Timed.start .epoch ()) relayHistory :=
  ⟨regular_relayHistory, by decide +kernel,
    .inr ⟨fun aborts => aborts, by decide +kernel, by decide +kernel⟩,
    conservation _ _ regular_relayHistory⟩

end Conveyor
