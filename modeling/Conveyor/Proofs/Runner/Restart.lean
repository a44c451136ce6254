import Conveyor.Proofs.Queue.History
import Conveyor.Proofs.Runner.Conservation

/-!
# Tasks that are submitted again

A task that is submitted again begins a new record, but the messages of its earlier submission stay
where they are, and each of them that comes to its end is counted in the new record.  So a task can
be processed while some of its own records are out still, though never more of them than messages
of the earlier submission have gone in the meantime.

* `Intake` — a submission that was accepted: the plant before it and after it; `latestIntake?` is
  that of the latest submission.
* `Intake.own` — the messages that it published; `Intake.leftover` — those of the task that it
  found.
* `Encumbered` — how a record stands to the messages that are out, of which some were left over.
* **`encumbered_after`** — so stands the record of every task after every history.
* **`processed_on_own_records`** — how many of its own records may be out when a task is processed.
-/

namespace Conveyor

/-! ## Intakes -/

/-- A submission that was accepted. -/
structure Intake (V : Type) where
  before : MemoryPlant V
  after : MemoryPlant V

namespace Intake

variable {V : Type}

/-- The messages that the submission published. -/
def own (i : Intake V) : List Publication := MemoryQueue.gained i.before.queue i.after.queue

/-- The messages of a task that were out before it was submitted. -/
def leftover (i : Intake V) (id : TaskId) : List Publication :=
  i.before.queue.standingOf.filter fun m => m.envelope.taskId = id

theorem length_leftover (i : Intake V) (id : TaskId) :
    (i.leftover id).length = i.before.queue.out id := by
  rw [leftover, ← List.countP_eq_length_filter, MemoryQueue.standingOf, List.countP_map]
  rfl

/-- **If no more is out than was left over**, then no more of what was published is out than of what
was left over has gone. -/
theorem length_own_le (i : Intake V) {id : TaskId} {q : MemoryQueue}
    (own : ∀ m ∈ i.own, m.envelope.taskId = id) (bound : q.out id ≤ (i.leftover id).length) :
    (i.own.filter (· ∈ q.standingOf)).length
      ≤ ((i.leftover id).filter (· ∉ q.standingOf)).length := by
  have apart : ∀ m ∈ i.own, m ∉ i.leftover id := by
    intro m mem old
    have given := MemoryQueue.le_issued_of_standing (List.mem_filter.1 old).1
    have fresh := of_decide_eq_true (List.mem_filter.1 mem).2
    omega
  -- what is out of both stands in the queue, and nothing of it is in both
  have nodup : (i.own.filter (· ∈ q.standingOf)
      ++ (i.leftover id).filter (· ∈ q.standingOf)).Nodup := by
    refine List.nodup_append.2 ⟨?_, ?_, ?_⟩
    · exact (i.after.queue.nodup_standingOf.filter _).filter _
    · exact (i.before.queue.nodup_standingOf.filter _).filter _
    · rintro m mem _ old rfl
      exact apart m (List.mem_of_mem_filter mem) (List.mem_of_mem_filter old)
  have within : (i.own.filter (· ∈ q.standingOf)
      ++ (i.leftover id).filter (· ∈ q.standingOf))
        ⊆ q.standingOf.filter fun m => m.envelope.taskId = id := by
    intro m mem
    rw [List.mem_append, List.mem_filter, List.mem_filter] at mem
    rcases mem with ⟨mem, here⟩ | ⟨mem, here⟩
    · exact List.mem_filter.2 ⟨of_decide_eq_true here, by simpa using own m mem⟩
    · exact List.mem_filter.2 ⟨of_decide_eq_true here, (List.mem_filter.1 mem).2⟩
  have counted := (List.subperm_of_subset nodup within).length_le
  have out : (q.standingOf.filter fun m => m.envelope.taskId = id).length = q.out id := by
    rw [← List.countP_eq_length_filter, MemoryQueue.standingOf, List.countP_map]
    rfl
  have split := List.length_eq_length_filter_add (l := i.leftover id)
    (f := (· ∈ q.standingOf))
  simp only [List.length_append, decide_not] at counted split ⊢
  omega

end Intake

variable {V : Type} [Clock V]

/-- Whether an operation, done with a plant, takes a task up: it submits it to a topology that
there is, and the task is new or to begin again. -/
def Operation.takesUp (id : TaskId) (p : MemoryPlant V) : Operation V → Bool
  | submit s task => task.id = id && (s.topologies.get? task.topology).isSome
      && (task.restart || (p.progress id).isNone)
  | _ => false

/-- The latest submission with which a task was taken up. -/
def latestIntake? (start : V) (id : TaskId) : List (Operation V) → Option (Intake V)
  | [] => none
  | op :: earlier =>
      if op.takesUp id (plantAfter start earlier) then
        some ⟨plantAfter start earlier, plantAfter start (op :: earlier)⟩
      else latestIntake? start id earlier

/-! ## Records with messages left over -/

/-- How a record stands to the `out` messages of its task, of which `left` were out when the task
was submitted: in progress, all that is missing of what is expected is out, and as many more as were
left over; processed, no more are out than were left over. -/
structure Encumbered (left out : Nat) (t : TaskInfo) : Prop where
  begun : t.state ≠ .pending
  working : t.state = .processing → out + t.finished = t.expected + left ∧ 0 ≤ t.expected
  processed : t.state = .processed → out ≤ left

namespace Encumbered

open Tracker

variable {left out : Nat} {t : TaskInfo} {now : Timestamp}

/-- A task that has ended otherwise than by being processed. -/
theorem of_ended (ended : t.state = .dropped ∨ t.state = .failed) : Encumbered left out t := by
  have apart : ∀ s, s = .pending ∨ s = .processing ∨ s = .processed → t.state ≠ s := by
    rintro s other rfl
    rcases ended with h | h <;> rw [h] at other <;> simp at other
  exact ⟨apart _ (.inl rfl), fun h => absurd h (apart _ (.inr (.inl rfl))),
    fun h => absurd h (apart _ (.inr (.inr rfl)))⟩

/-- **A task in progress that is settled** is done only if no more is out than was left over. -/
theorem settled (processing : t.state = .processing)
    (total : out + t.finished = t.expected + left) (positive : 0 ≤ t.expected) :
    Encumbered left out (t.settled now) := by
  by_cases due : t.isDue = true
  · obtain ⟨-, -, reached⟩ := TaskInfo.isDue_iff.1 due
    have ends : (t.completed now).state.isTerminal = true := TaskInfo.verdict_isTerminal t
    rw [TaskInfo.settled, if_pos due]
    refine ⟨fun pending => ?_, fun processing => ?_, fun _ => by omega⟩
    · rw [pending] at ends
      cases ends
    · rw [processing] at ends
      cases ends
  · rw [TaskInfo.settled, if_neg due]
    refine ⟨fun pending => ?_, fun _ => ⟨total, positive⟩, fun processed => ?_⟩
    · rw [processing] at pending
      cases pending
    · rw [processing] at processed
      cases processed

/-- A change that is made of a task which is done leaves it as it stands, even if less is out. -/
theorem revise_of_done {change : Change} (lawful : change.Lawful) (h : Encumbered left out t)
    (done : t.state.isTerminal = true) {out' : Nat} (less : out' ≤ out) :
    Encumbered left out' (change.revise now t) := by
  rw [Change.revise_of_terminal lawful done]
  refine ⟨h.begun, fun processing => ?_, fun processed => less.trans (h.processed processed)⟩
  have : t.state = .processing := processing
  rw [this] at done
  cases done

theorem cases (h : Encumbered left out t) :
    t.state = .processing ∨ t.state.isTerminal = true := t.processing_or_done h.begun

/-- **A record that is counted** is out no more, whichever submission it is of. -/
theorem count (h : Encumbered left (out + 1) t) (counter : Counter) :
    Encumbered left out ((Change.count counter).revise now t) := by
  rcases h.cases with processing | done
  · obtain ⟨total, positive⟩ := h.working processing
    have active := TaskInfo.isActive_of_processing processing
    rw [Change.revise_of_checks rfl, Change.own_count, if_pos active]
    refine settled ?_ ?_ ?_
    · rw [TaskInfo.state_bump, processing]
    · rw [TaskInfo.finished_bump, TaskInfo.expected_bump]
      omega
    · rw [TaskInfo.expected_bump]
      exact positive
  · have lawful : (Change.count counter).Lawful := trivial
    exact h.revise_of_done lawful done (Nat.le_succ out)

theorem warn (h : Encumbered left out t) (reason : String) :
    Encumbered left out ((Change.warn reason).revise now t) := by
  rcases h.cases with processing | done
  · obtain ⟨total, positive⟩ := h.working processing
    have active := TaskInfo.isActive_of_processing processing
    rw [Change.revise_of_checks rfl, Change.own_warn, if_pos active]
    exact settled processing total positive
  · have lawful : (Change.warn reason).Lawful := trivial
    exact h.revise_of_done lawful done (Nat.le_refl out)

theorem abort (h : Encumbered left out t) {target : TaskState}
    (ends : target = .dropped ∨ target = .failed) (description : String) :
    Encumbered left out ((Change.move TaskState.active target description).revise now t) := by
  rcases h.cases with processing | done
  · have mem : t.state ∈ TaskState.active := by
      rw [processing]
      decide
    rw [Change.revise_move, if_pos mem]
    exact of_ended ends
  · exact h.revise_of_done (Balance.lawful_abort ends description) done (Nat.le_refl out)

end Encumbered

/-! ## Accounts with messages left over -/

namespace Account

variable {left : Nat} {may : Prop} {a b : Account}

/-- An account whose record, if the task is known, stands so to the messages that are out. -/
def Encumbered (left : Nat) (a : Account) : Prop :=
  ∀ t, a.record = some t → Conveyor.Encumbered left a.out t

/-- What is true of the record after a change is true of the account. -/
theorem Encumbered.of_map {r : Option TaskInfo} {f : TaskInfo → TaskInfo} {out : Nat}
    (h : ∀ t, r = some t → Conveyor.Encumbered left out (f t)) :
    (⟨out, r.map f⟩ : Account).Encumbered left := by
  intro t' same
  obtain ⟨t, known, rfl⟩ := Option.map_eq_some_iff.1 same
  exact h t known

/-- **Every entry in an account** leaves it as it stands. -/
theorem Encumbered.move (h : a.Encumbered left) (move : Move may a b) : b.Encumbered left := by
  cases move with
  | entry entry =>
    cases entry with
    | void out dropped =>
      rename_i t
      intro t' same
      obtain rfl : t = t' := Option.some.inj same
      exact .of_ended (.inl dropped)
    | count out r now counter => exact .of_map fun t known => (h t known).count counter
  | warn out r now reason => exact .of_map fun t known => (h t known).warn reason
  | abort out r now description ends _ => exact .of_map fun t known => (h t known).abort ends _

theorem Encumbered.moves (h : a.Encumbered left) (moves : Relation.ReflTransGen (Move may) a b) :
    b.Encumbered left := by
  induction moves with
  | refl => exact h
  | tail _ move ih => exact ih.move move

/-- Of a task that is not known nothing becomes known, even if messages of it are out. -/
theorem unknown_of_moves (unknown : a.record = none)
    (moves : Relation.ReflTransGen (Move may) a b) : b.record = none := by
  induction moves with
  | refl => exact unknown
  | tail _ move ih =>
    cases move with
    | entry entry =>
      cases entry with
      | void => exact ih
      | count => exact Option.map_eq_none_iff.2 ih
    | warn => exact Option.map_eq_none_iff.2 ih
    | abort => exact Option.map_eq_none_iff.2 ih

end Account

/-! ## Submissions -/

section

variable {s : Submitter V} {task : Task} {p : MemoryPlant V}

/-- **A task that is taken up** is encumbered with the messages that were out before, and all that
is published is of it. -/
theorem encumbered_submit (admissible : (Operation.submit s task).Admissible)
    (takes : (Operation.submit s task).takesUp task.id p = true) :
    ((s.submit task p).2.account task.id).Encumbered (p.queue.out task.id) ∧
      ∀ m ∈ MemoryQueue.gained p.queue (s.submit task p).2.queue, m.envelope.taskId = task.id := by
  simp only [Operation.takesUp, decide_true, Bool.true_and, Bool.and_eq_true, Bool.or_eq_true,
    Option.isNone_iff_eq_none, Option.isSome_iff_exists] at takes
  obtain ⟨⟨topology, found⟩, free⟩ := takes
  have unchained := admissible topology found
  cases told : (s.source task).tell p.services with
  | mk records services error =>
    have account : (s.published topology task records services p).account task.id
        = ⟨p.queue.out task.id + records.length, some (s.begun topology task (Clock.now p))⟩ := by
      rw [s.account_published topology records services free, if_pos rfl]
    have gained : ∀ m ∈ MemoryQueue.gained p.queue (publishing topology task records p.queue),
        m.envelope.taskId = task.id := by
      intro m mem
      obtain ⟨new, messages, envelopes, -⟩ := messages_publishing topology task records p.queue
      obtain ⟨stored, new, rfl⟩ := MemoryQueue.mem_of_gained messages mem
      have among := List.mem_map_of_mem (f := StoredMessage.envelope) new
      rw [envelopes] at among
      obtain ⟨r, -, same⟩ := List.mem_map.1 among
      show stored.envelope.taskId = task.id
      rw [← same, SourceRecord.taskId_envelope]
    cases error with
    | none =>
      rw [Submitter.submit_of_told found unchained free told]
      refine ⟨?_, gained⟩
      rw [Plant.account_told_self
        (c := .setExpected (Clock.now services) task.id records.length) task.id rfl rfl, account]
      refine .of_map fun t same => ?_
      obtain rfl := Option.some.inj same
      rw [Tracker.Change.revise_of_checks rfl, Tracker.Change.own_expect]
      refine Encumbered.settled rfl ?_ (Int.natCast_nonneg _)
      show ((p.queue.out task.id + records.length : Nat) : Int) + 0
        = (records.length : Int) + (p.queue.out task.id : Int)
      omega
    | some err =>
      rw [Submitter.submit_of_broken found unchained free told]
      refine ⟨?_, gained⟩
      rw [Plant.account_told_self
        (c := .failTask (Clock.now services) task.id _) task.id rfl rfl, account]
      refine .of_map fun t same => ?_
      obtain rfl := Option.some.inj same
      have open_ : (s.begun topology task (Clock.now p)).state ∈ TaskState.active :=
        TaskState.mem_active_iff.2 rfl
      rw [Tracker.Change.revise_move, if_pos open_]
      exact .of_ended (.inr rfl)

/-- A submission that does not take its task up leaves its account alone. -/
theorem account_submit_of_not_taken (admissible : (Operation.submit s task).Admissible)
    (refused : (Operation.submit s task).takesUp task.id p = false) :
    (s.submit task p).2.account task.id = p.account task.id := by
  cases found : s.topologies.get? task.topology with
  | none => rw [Submitter.submit_of_unknown found]
  | some topology =>
    simp only [Operation.takesUp, found, decide_true, Option.isSome_some, Bool.true_and,
      Bool.or_eq_false_iff, Option.isNone_eq_false_iff, Option.isSome_iff_exists] at refused
    obtain ⟨keep, t, known⟩ := refused
    rw [Submitter.submit_of_taken found (admissible topology found) keep known]

end

/-! ## Histories -/

section

variable (start : V) {history : List (Operation V)} {id : TaskId}

/-- A task that is known was taken up, and is encumbered with what was left over then. -/
structure TakenUp (id : TaskId) (i : Intake V) (a : Account) : Prop where
  encumbered : a.Encumbered (i.before.queue.out id)
  own : ∀ m ∈ i.own, m.envelope.taskId = id

/-- **Every task that is known was taken up**, and its record stands so to its messages. -/
theorem encumbered_after (admissible : ∀ op ∈ history, op.Admissible) (id : TaskId)
    (known : (plantAfter start history).progress id ≠ none) :
    ∃ i, latestIntake? start id history = some i ∧
      TakenUp id i ((plantAfter start history).account id) := by
  induction history with
  | nil => exact absurd rfl known
  | cons op earlier ih =>
    have here := admissible op (List.mem_cons_self ..)
    have ih := ih fun op mem => admissible op (List.mem_cons_of_mem _ mem)
    by_cases takes : op.takesUp id (plantAfter start earlier) = true
    · refine ⟨⟨plantAfter start earlier, plantAfter start (op :: earlier)⟩, if_pos takes, ?_⟩
      cases op with
      | submit s task =>
        have own : task.id = id := by
          simp only [Operation.takesUp, Bool.and_eq_true, decide_eq_true_eq] at takes
          exact takes.1.1
        subst own
        obtain ⟨encumbered, own⟩ := encumbered_submit here takes
        exact ⟨encumbered, own⟩
      | _ => cases takes
    · -- what is done otherwise enters moves in the account, or nothing
      have moves : Relation.ReflTransGen (Account.Move (op.aborts (plantAfter start earlier)))
          ((plantAfter start earlier).account id)
          ((plantAfter start (op :: earlier)).account id) := by
        by_cases own : op.submitted? = some id
        · cases op with
          | submit s task =>
            obtain rfl : task.id = id := Option.some.inj own
            have same := account_submit_of_not_taken here (Bool.eq_false_iff.2 takes)
            rw [plantAfter, Operation.run, same]
          | _ => cases own
        · exact Operation.moves_run here own _
      have before : (plantAfter start earlier).progress id ≠ none := fun unknown =>
        known (Account.unknown_of_moves unknown moves)
      obtain ⟨i, latest, taken⟩ := ih before
      refine ⟨i, ?_, taken.encumbered.moves moves, taken.own⟩
      rw [latestIntake?, if_neg takes, latest]

/-- **When a task is processed**, at most as many of its own records are still where they were
published as messages that were left over have gone since.  So if all of those are there still,
none of its own is. -/
theorem processed_on_own_records (admissible : ∀ op ∈ history, op.Admissible) {t : TaskInfo}
    (known : (plantAfter start history).progress id = some t) (processed : t.state = .processed) :
    ∃ i, latestIntake? start id history = some i ∧
      (i.own.filter (· ∈ (plantAfter start history).queue.standingOf)).length
        ≤ ((i.leftover id).filter (· ∉ (plantAfter start history).queue.standingOf)).length ∧
      ((∀ m ∈ i.leftover id, m ∈ (plantAfter start history).queue.standingOf) →
        ∀ m ∈ i.own, m ∉ (plantAfter start history).queue.standingOf) := by
  obtain ⟨i, latest, taken⟩ := encumbered_after start admissible id (by simp [known])
  have bound : (plantAfter start history).queue.out id ≤ (i.leftover id).length := by
    rw [i.length_leftover]
    exact (taken.encumbered t known).processed processed
  have displaced := i.length_own_le taken.own bound
  refine ⟨i, latest, displaced, fun stand m mem here => ?_⟩
  have none : (i.leftover id).filter (· ∉ (plantAfter start history).queue.standingOf) = [] := by
    rw [List.filter_eq_nil_iff]
    intro m mem
    simpa using stand m mem
  rw [none, List.length_nil, Nat.le_zero, List.length_eq_zero_iff, List.filter_eq_nil_iff]
    at displaced
  exact displaced m mem (by simpa using here)

end

/-! ## A task that begins again -/

def relayAgain : Operation (Timed Unit) :=
  .submit relaySubmitter { relayTask with restart := true }

/-- The task fails, its messages are dealt with, it begins again, and its records are dealt with. -/
def relayedAgain : List (Operation (Timed Unit)) :=
  [.poll relayWorker, .poll relayWorker, relayAgain, .poll relayWorker, .poll relayWorker,
    .failTask ⟨7⟩ "interrupted", .submit relaySubmitter relayTask]

/-- The task fails and begins again, and two messages are dealt with. -/
def relayedInterrupted : List (Operation (Timed Unit)) :=
  [.poll relayWorker, .poll relayWorker, relayAgain, .failTask ⟨7⟩ "interrupted",
    .submit relaySubmitter relayTask]

theorem admissible_relay {history : List (Operation (Timed Unit))}
    (only : ∀ op ∈ history, op = .poll relayWorker ∨ op = relayAgain ∨
      op = .failTask ⟨7⟩ "interrupted" ∨ op = .submit relaySubmitter relayTask) :
    ∀ op ∈ history, op.Admissible := by
  have relays : ∀ op ∈ relayHistory, op.Admissible := regular_relayHistory.admissible
  have submits : (Operation.submit relaySubmitter relayTask).Admissible :=
    relays _ (by simp [relayHistory])
  intro op mem
  rcases only op mem with rfl | rfl | rfl | rfl
  · exact relays _ (by simp [relayHistory])
  · exact submits
  · exact trivial
  · exact submits

theorem processed_on_own_records_again :
    (∀ op ∈ relayedAgain, op.Admissible) ∧
      ((plantAfter (Timed.start .epoch ()) relayedAgain).progress ⟨7⟩).map TaskInfo.state
        = some .processed ∧
      ∃ i, latestIntake? (Timed.start .epoch ()) ⟨7⟩ relayedAgain = some i ∧
        i.leftover ⟨7⟩ = [] ∧
        ∀ m ∈ i.own, m ∉ (plantAfter (Timed.start .epoch ()) relayedAgain).queue.standingOf := by
  have admissible : ∀ op ∈ relayedAgain, op.Admissible :=
    admissible_relay (by simp [relayedAgain])
  have state : ((plantAfter (Timed.start .epoch ()) relayedAgain).progress ⟨7⟩).map TaskInfo.state
      = some .processed := by decide +kernel
  have left : (latestIntake? (Timed.start .epoch ()) ⟨7⟩ relayedAgain).map (·.leftover ⟨7⟩)
      = some [] := by decide +kernel
  obtain ⟨t, known, processed⟩ := Option.map_eq_some_iff.1 state
  obtain ⟨i, latest, -, rest⟩ :=
    processed_on_own_records (Timed.start .epoch ()) admissible known processed
  have none : i.leftover ⟨7⟩ = [] := by
    rw [latest] at left
    exact Option.some.inj left
  exact ⟨admissible, state, i, latest, none, rest (by simp [none])⟩

/-- **The messages that are dealt with need not be its own**: here the two that were left over are
counted, the task is processed, and both of its own records are still out. -/
theorem processed_on_leftover_records :
    (∀ op ∈ relayedInterrupted, op.Admissible) ∧
      ((plantAfter (Timed.start .epoch ()) relayedInterrupted).progress ⟨7⟩).map TaskInfo.state
        = some .processed ∧
      ∃ i, latestIntake? (Timed.start .epoch ()) ⟨7⟩ relayedInterrupted = some i ∧
        i.own.length = 2 ∧ ∀ m ∈ i.own,
          m ∈ (plantAfter (Timed.start .epoch ()) relayedInterrupted).queue.standingOf := by
  have out : (latestIntake? (Timed.start .epoch ()) ⟨7⟩ relayedInterrupted).any (fun i =>
      i.own.length = 2 ∧ ∀ m ∈ i.own,
        m ∈ (plantAfter (Timed.start .epoch ()) relayedInterrupted).queue.standingOf) = true := by
    decide +kernel
  refine ⟨admissible_relay (by simp [relayedInterrupted]), by decide +kernel, ?_⟩
  obtain ⟨i, latest, there⟩ := (Option.any_eq_true _ _).1 out
  exact ⟨i, latest, of_decide_eq_true there⟩

end Conveyor
