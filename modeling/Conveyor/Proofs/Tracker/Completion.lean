import Conveyor.Proofs.Tracker.Lifecycle
import Mathlib.Tactic.ByContra

/-!
# The completion of tasks

A call that counts a record, sets the expected number or notes a reason to fail completes its task
exactly if, by what it has done itself, the task is in progress and its records are through.  The
task has then failed if a reason was noted while it was active, and is processed otherwise.

* `Completes` — that a call, made after a history of calls, completes a task.
* `firstReason` — the first reason noted while a task was active, read off the history.
* **`completes_iff`**, **`fatal_recordAfter`** — when a task is completed, and with which reason.
* `Outstanding` — the invariant of a task whose expected number is set at its registration: as long
  as it is in progress, not all of its records are counted.
* **`completion_when_due`** — what holds of completion after every history of calls.
-/

namespace Conveyor

namespace TaskInfo

variable {t : TaskInfo}

@[simp] theorem finished_bump (t : TaskInfo) (c : Counter) :
    (t.bump c).finished = t.finished + 1 := by
  cases c <;> simp only [bump, finished] <;> omega

@[simp] theorem expected_bump (t : TaskInfo) (c : Counter) :
    (t.bump c).expected = t.expected := by
  cases c <;> rfl

@[simp] theorem fatal_bump (t : TaskInfo) (c : Counter) : (t.bump c).fatal = t.fatal := by
  cases c <;> rfl

@[simp] theorem fatal_settled (now : Timestamp) (t : TaskInfo) :
    (t.settled now).fatal = t.fatal := by
  rw [settled]
  split <;> rfl

@[simp] theorem expected_settled (now : Timestamp) (t : TaskInfo) :
    (t.settled now).expected = t.expected := by
  rw [settled]
  split <;> rfl

theorem fatal_of_processed_settled {now : Timestamp} (h : t.state = .processed → t.fatal = none)
    (processed : (t.settled now).state = .processed) : (t.settled now).fatal = none := by
  rw [fatal_settled]
  rcases t.state_settled now with same | ⟨-, verdict⟩
  · rw [same] at processed
    exact h processed
  · rw [verdict, TaskInfo.verdict] at processed
    by_cases reason : t.fatal.isSome = true
    · rw [if_pos reason] at processed
      cases processed
    · simpa using reason

theorem isTerminal_settled (now : Timestamp) (t : TaskInfo) :
    (t.settled now).state.isTerminal = (t.state.isTerminal || t.isDue) := by
  rw [settled]
  split
  · rename_i due
    simp [due, completed, moved, t.verdict_isTerminal]
  · rename_i idle
    simp [idle]

end TaskInfo

namespace Tracker

namespace Call

def checks : Call → Bool
  | setExpected .. | processed .. | failed .. | deleted .. | postProcessed .. | fatal .. => true
  | _ => false

/-- The record of its task after what a call itself does to it. -/
def own (c : Call) (t : TaskInfo) : TaskInfo :=
  match c.change? with
  | some change => change.own c.now t
  | none => t

def isOutcome : Call → Bool
  | processed .. | failed .. | deleted .. | postProcessed .. => true
  | _ => false

variable {c : Call} {t : TaskInfo}

theorem change?_of_checks (h : c.checks = true) :
    ∃ change, c.change? = some change ∧ change.checks = true := by
  cases c with
  | setExpected | processed | failed | deleted | postProcessed | fatal => exact ⟨_, rfl, rfl⟩
  | _ => cases h

theorem checks_of_isReport (h : c.isReport = true) : c.checks = true := by
  cases c with
  | processed | failed | deleted | postProcessed | fatal => rfl
  | _ => cases h

theorem state_own (h : c.checks = true) (t : TaskInfo) : (c.own t).state = t.state := by
  obtain ⟨change, hc, checks⟩ := change?_of_checks h
  rw [own, hc]
  exact Change.state_own_of_checks checks c.now t

end Call

/-! ## One call -/

/-- A call that is made after a history of calls *completes* a task: it looks for completion, and
the task is done after it that was not done before. -/
def Completes (history : List Call) (c : Call) (id : TaskId) : Prop :=
  c.checks = true ∧ ∃ t u, recordAfter history id = some t ∧
    recordAfter (c :: history) id = some u ∧
    t.state.isTerminal = false ∧ u.state.isTerminal = true

section

variable {c : Call} {history earlier later : List Call} {id : TaskId} {t u : TaskInfo}

/-- A call that looks for completion settles what it has made of the record itself. -/
theorem recordAfter_of_checks (h : c.checks = true) (history : List Call) :
    recordAfter (c :: history) c.task
      = (recordAfter history c.task).map fun t => (c.own t).settled c.now := by
  obtain ⟨change, hc, checks⟩ := Call.change?_of_checks h
  rw [recordAfter_cons, if_pos rfl, Call.after, hc]
  show (recordAfter history c.task).map (change.revise c.now) = _
  congr 1
  funext t
  simp [Change.revise, checks, Call.own, hc]

/-- **Completion happens exactly when it is due.** -/
theorem completes_iff (h : c.checks = true) :
    Completes history c id ↔
      c.task = id ∧ ∃ t, recordAfter history id = some t ∧ (c.own t).isDue = true := by
  constructor
  · rintro ⟨-, t, u, before, after, open_, done⟩
    by_cases same : c.task = id
    · subst same
      rw [recordAfter_of_checks h, before] at after
      cases after
      rw [TaskInfo.isTerminal_settled, Call.state_own h, open_] at done
      exact ⟨rfl, t, before, by simpa using done⟩
    · rw [recordAfter_cons, if_neg same, before] at after
      cases after
      rw [open_] at done
      cases done
  · rintro ⟨rfl, t, before, due⟩
    refine ⟨h, t, (c.own t).settled c.now, before, ?_, ?_, ?_⟩
    · rw [recordAfter_of_checks h, before]
      rfl
    · rw [← Call.state_own h t, (TaskInfo.isDue_iff.1 due).1]
      rfl
    · rw [TaskInfo.isTerminal_settled, due, Bool.or_true]

theorem recordAfter_of_completes (h : Completes history c id) :
    ∃ t, c.task = id ∧ recordAfter history id = some t ∧ (c.own t).isDue = true ∧
      recordAfter (c :: history) id = some ((c.own t).completed c.now) := by
  obtain ⟨rfl, t, before, due⟩ := (completes_iff h.1).1 h
  refine ⟨t, rfl, before, due, ?_⟩
  rw [recordAfter_of_checks h.1, before]
  simp [TaskInfo.settled, due]

/-- **A report answers a state** exactly if it has completed its task in that state. -/
theorem run_isReport_iff (report : c.isReport = true) (state : TaskState) :
    (c.run (afterAll history)).1 = .ok (.ended (some state)) ↔
      Completes history c c.task ∧
        ∃ u, recordAfter (c :: history) c.task = some u ∧ u.state = state := by
  have checks := Call.checks_of_isReport report
  obtain ⟨change, hc, -, answer⟩ := Call.change?_of_isReport report
  have own : ∀ t, c.own t = change.own c.now t := fun t => by rw [Call.own, hc]
  rw [Call.run_fst, Call.answer, hc]
  show Except.ok (change.answer c.now (recordAfter history c.task)) = _ ↔ _
  rw [answer, Except.ok.injEq, Answer.ended.injEq, completes_iff checks,
    recordAfter_of_checks checks]
  cases recordAfter history c.task with
  | none => simp [Change.verdict]
  | some t =>
    by_cases due : (change.own c.now t).isDue = true
    · simp [Change.verdict, own, due, TaskInfo.settled, Option.filter_some, TaskInfo.completed,
        TaskInfo.moved]
    · simp [Change.verdict, own, due, Option.filter_some]

end

/-! ## The reason to fail -/

/-- The first reason to fail that was noted of a task while it was active, since its record was
last replaced. -/
def firstReason (id : TaskId) : List Call → Option String
  | [] => none
  | .fatal _ task reason :: earlier =>
      if task = id ∧ (recordAfter earlier id).any TaskInfo.isActive then
        firstReason id earlier <|> some reason
      else firstReason id earlier
  | .register _ task _ _ _ true :: earlier => if task = id then none else firstReason id earlier
  | _ :: earlier => firstReason id earlier

section

variable {c : Call} {history earlier later : List Call} {id : TaskId} {t u : TaskInfo}

theorem firstReason_of_ne (h : c.task ≠ id) :
    firstReason id (c :: earlier) = firstReason id earlier := by
  cases c with
  | fatal now task reason => exact if_neg fun both => h both.1
  | register now task topology expected owner replace =>
    cases replace with
    | true => exact if_neg h
    | false => rfl
  | _ => rfl

theorem firstReason_of_change {change : Change} (hc : c.change? = some change) (h : c.task = id) :
    firstReason id (c :: earlier) = match change with
      | .warn reason =>
          if (recordAfter earlier id).any TaskInfo.isActive then
            firstReason id earlier <|> some reason
          else firstReason id earlier
      | _ => firstReason id earlier := by
  cases c with
  | register => cases hc
  | fatal now task reason =>
    cases hc
    obtain rfl : task = id := h
    simp [firstReason]
  | _ =>
    cases hc
    rfl

theorem firstReason_of_unknown (h : recordAfter history id = none) :
    firstReason id history = none := by
  induction history with
  | nil => rfl
  | cons c rest ih =>
    have unknown := recordAfter_eq_none h (List.suffix_cons c rest)
    have reasonless := ih unknown
    by_cases same : c.task = id
    · cases hc : c.change? with
      | some change =>
        rw [firstReason_of_change hc same, unknown, reasonless]
        cases change <;> rfl
      | none =>
        -- a registration of the task would have made it known
        obtain ⟨now, task, topology, expected, owner, replace, rfl⟩ := Call.change?_eq_none hc
        rw [recordAfter_cons, if_pos same, unknown] at h
        cases replace <;> cases h
    · rw [firstReason_of_ne same, reasonless]

/-- A change other than the noting of a reason leaves the reason alone. -/
theorem Change.fatal_own {change : Change} (h : ∀ reason, change ≠ .warn reason)
    (now : Timestamp) (t : TaskInfo) : (change.own now t).fatal = t.fatal := by
  cases change with
  | count counter =>
    rw [own_count]
    split <;> simp
  | expect n => rfl
  | warn reason => exact absurd rfl (h reason)
  | move sources target description =>
    rw [own_move]
    split <;> rfl

theorem Change.fatal_revise (change : Change) (now : Timestamp) (t : TaskInfo) :
    (change.revise now t).fatal = (change.own now t).fatal := by
  rw [revise]
  split
  · exact TaskInfo.fatal_settled now _
  · rfl

/-- **The reason in a record** is the first that was noted while the task was active. -/
theorem fatal_recordAfter (h : recordAfter history id = some t) :
    t.fatal = firstReason id history := by
  induction history generalizing t with
  | nil => cases h
  | cons c rest ih =>
    by_cases same : c.task = id
    · rw [recordAfter_cons, if_pos same, Call.after] at h
      cases hc : c.change? with
      | some change =>
        simp only [hc, Option.map_eq_some_iff] at h
        obtain ⟨r, before, rfl⟩ := h
        rw [Change.fatal_revise, firstReason_of_change hc same, before]
        cases change with
        | warn reason =>
          rw [Change.own_warn]
          by_cases active : r.isActive = true <;> simp [active, ih before]
        | _ =>
          rw [Change.fatal_own (by simp)]
          exact ih before
      | none =>
        obtain ⟨now, task, topology, expected, owner, replace, rfl⟩ := Call.change?_eq_none hc
        obtain rfl : task = id := same
        cases replace with
        | true =>
          cases h
          simp [firstReason, TaskInfo.new]
        | false =>
          cases before : recordAfter rest task with
          | some r =>
            rw [before] at h
            cases h
            exact ih before
          | none =>
            rw [before] at h
            cases h
            exact (firstReason_of_unknown before).symm
    · rw [recordAfter_cons, if_neg same] at h
      rw [firstReason_of_ne same]
      exact ih h

/-- A reason that was noted stays, unless the record is replaced. -/
theorem firstReason_append (plain : ∀ c ∈ later, c.task = id → c.replaces = false)
    (h : (firstReason id history).isSome = true) :
    (firstReason id (later ++ history)).isSome = true := by
  induction later with
  | nil => exact h
  | cons c rest ih =>
    have before := ih fun c mem => plain c (List.mem_cons_of_mem _ mem)
    rw [List.cons_append]
    by_cases same : c.task = id
    · cases hc : c.change? with
      | some change =>
        rw [firstReason_of_change hc same]
        cases change with
        | warn reason =>
          cases found : firstReason id (rest ++ history) with
          | none => simp [found] at before
          | some first => simp
        | _ => exact before
      | none =>
        obtain ⟨now, task, topology, expected, owner, replace, rfl⟩ := Call.change?_eq_none hc
        obtain rfl : replace = false := plain _ (List.mem_cons_self ..) same
        exact before
    · rw [firstReason_of_ne same]
      exact before

theorem Call.target_ne_processed {sources : List TaskState} {target : TaskState}
    {description : String} (hc : c.change? = some (.move sources target description)) :
    target ≠ .processed := by
  cases c with
  | start | dropTask | failTask =>
    cases hc
    decide
  | _ => cases hc

/-- One change keeps it so that a task that is processed has no reason to fail. -/
theorem Change.fatal_of_processed {change : Change} {now : Timestamp}
    (apart : ∀ sources target description, change = .move sources target description →
      target ≠ .processed)
    (before : t.state = .processed → t.fatal = none)
    (processed : (change.revise now t).state = .processed) :
    (change.revise now t).fatal = none := by
  cases change with
  | move sources target description =>
    rw [revise_move] at processed ⊢
    by_cases mem : t.state ∈ sources
    · rw [if_pos mem] at processed
      exact absurd processed (apart sources target description rfl)
    · rw [if_neg mem] at processed ⊢
      exact before processed
  | warn reason =>
    rw [revise_of_checks rfl] at processed ⊢
    refine TaskInfo.fatal_of_processed_settled (fun here => ?_) processed
    rw [state_own_of_checks rfl] at here
    -- the task was processed before, so that it is not active and nothing is noted of it
    have idle : ¬ t.isActive = true := by simp [TaskInfo.isActive, here, TaskState.isTerminal]
    rw [own_warn, if_neg idle]
    exact before here
  | _ =>
    rw [revise_of_checks rfl] at processed ⊢
    refine TaskInfo.fatal_of_processed_settled (fun here => ?_) processed
    rw [state_own_of_checks rfl] at here
    rw [fatal_own (by simp)]
    exact before here

/-- **A task that is processed has no reason to fail.** -/
theorem fatal_of_processed (h : recordAfter history id = some t)
    (processed : t.state = .processed) : t.fatal = none := by
  induction history generalizing t with
  | nil => cases h
  | cons c rest ih =>
    rcases recordAfter_cons_cases h with same | ⟨-, fresh, -⟩ | ⟨change, r, -, hc, before, rfl⟩
    · exact ih same processed
    · obtain ⟨now, id, topology, expected, owner, rfl⟩ := Call.fresh?_eq_some fresh
      rfl
    · refine Change.fatal_of_processed ?_ (ih before) processed
      rintro sources target description rfl
      exact Call.target_ne_processed hc

/-- **A task with a reason to fail is never processed**, unless its record is replaced. -/
theorem state_ne_processed_of_fatal {now : Timestamp} {reason : String}
    (plain : ∀ c ∈ later, c.task = id → c.replaces = false)
    (active : (recordAfter history id).any TaskInfo.isActive = true)
    (h : recordAfter (later ++ .fatal now id reason :: history) id = some t) :
    t.state ≠ .processed := by
  intro processed
  have noted : (firstReason id (.fatal now id reason :: history)).isSome = true := by
    rw [firstReason, if_pos ⟨rfl, active⟩]
    cases firstReason id history <;> rfl
  have some := firstReason_append plain noted
  rw [← fatal_recordAfter h, fatal_of_processed h processed] at some
  cases some

/-- **A task is completed once**, unless its record is replaced. -/
theorem completes_once {d : Call} (first : Completes history c id)
    (again : Completes (later ++ c :: history) d id) :
    ∃ r ∈ later, r.task = id ∧ r.replaces = true := by
  by_contra none
  have plain : ∀ r ∈ later, r.task = id → r.replaces = false := fun r mem same =>
    Bool.eq_false_iff.2 fun replaces => none ⟨r, mem, same, replaces⟩
  obtain ⟨-, t, u, -, after, -, done⟩ := first
  obtain ⟨n, found⟩ := recordAfter_append_of_terminal plain after done
  obtain ⟨-, r, -, before, -, open_, -⟩ := again
  rw [found] at before
  cases before
  rw [done] at open_
  cases open_

end

/-! ## A task whose expected number is known from the start -/

namespace Call

def setsExpected : Call → Bool
  | setExpected .. => true
  | _ => false

theorem change?_of_isOutcome {c : Call} {counter : Counter}
    (hc : c.change? = some (.count counter)) : c.isOutcome = true := by
  cases c with
  | processed | failed | deleted | postProcessed => rfl
  | _ => cases hc

theorem setsExpected_of_change {c : Call} {n : Int} (hc : c.change? = some (.expect n)) :
    c.setsExpected = true := by
  cases c with
  | setExpected => rfl
  | _ => cases hc

end Call

/-- Calls after the registration of a task, the latest first, that keep its record and its expected
number, and report no outcome of it before it was started. -/
structure Orderly (id : TaskId) (calls : List Call) : Prop where
  fixed : ∀ c ∈ calls, c.task = id → c.replaces = false ∧ c.setsExpected = false
  started : ∀ later c earlier, calls = later ++ c :: earlier → c.task = id →
    c.isOutcome = true → ∃ now, Call.start now id ∈ earlier

/-- What holds of a task whose expected number was `n` from the start: not all of its records are
counted as long as it waits or is in progress, and no more than all are counted ever. -/
structure Outstanding (n : Int) (t : TaskInfo) : Prop where
  expected : t.expected = n
  waiting : t.state = .pending → t.finished = 0
  working : t.state = .processing → t.finished < n
  bound : t.finished ≤ n
  through : t.state = .processed → t.finished = n

section

variable {c : Call} {change : Change} {calls earlier : List Call} {id : TaskId} {n : Int}
  {t u : TaskInfo}

theorem Orderly.tail (h : Orderly id (c :: calls)) : Orderly id calls where
  fixed d mem := h.fixed d (List.mem_cons_of_mem _ mem)
  started later d earlier split :=
    h.started (c :: later) d earlier (by rw [split, List.cons_append])

/-- Of a task that was just registered all records are to come. -/
theorem Outstanding.new (positive : 1 ≤ n) (now : Timestamp) (id : TaskId) (topology : String)
    (owner : Option String) : Outstanding n (.new now id topology n owner) where
  expected := rfl
  waiting _ := rfl
  working h := by cases h
  bound := by
    show (0 : Int) ≤ n
    omega
  through h := by cases h

/-- Completion takes place at the very count that makes the number full. -/
theorem Outstanding.settled {now : Timestamp} (expected : t.expected = n)
    (waiting : t.state = .pending → t.finished = 0) (bound : t.finished ≤ n)
    (through : t.state = .processed → t.finished = n) (nonneg : 0 ≤ n) :
    Outstanding n (t.settled now) := by
  rw [TaskInfo.settled]
  split
  · rename_i due
    obtain ⟨-, -, reached⟩ := TaskInfo.isDue_iff.1 due
    have full : t.finished = n := by
      rw [expected] at reached
      exact Int.le_antisymm bound reached
    have after : (t.completed now).finished = t.finished := rfl
    have verdict : (t.completed now).state = t.verdict := rfl
    constructor
    · exact expected
    · intro h
      rw [verdict] at h
      have done := t.verdict_isTerminal
      rw [h] at done
      cases done
    · intro h
      exact absurd (verdict.symm.trans h) t.verdict_ne_processing
    · rw [after]
      exact bound
    · intro _
      rw [after]
      exact full
  · rename_i idle
    refine ⟨expected, waiting, fun processing => ?_, bound, through⟩
    -- had all been counted, completion would have been due
    by_contra reached
    refine idle (TaskInfo.isDue_iff.2 ⟨processing, ?_, ?_⟩)
    · rw [expected]
      exact nonneg
    · rw [expected]
      omega

/-- **One change keeps records outstanding**, unless it sets the expected number, or counts a
record of a task that still waits. -/
theorem Outstanding.revise {now : Timestamp} (h : Outstanding n t) (positive : 1 ≤ n)
    (lawful : change.Lawful) (fixed : ∀ m, change ≠ .expect m)
    (target : ∀ sources target description, change = .move sources target description →
      target ≠ .processed)
    (started : ∀ counter, change = .count counter → t.state ≠ .pending) :
    Outstanding n (change.revise now t) := by
  have nonneg : 0 ≤ n := by omega
  cases change with
  | count counter =>
    have begun := started counter rfl
    rw [Change.revise_of_checks rfl, Change.own_count]
    split
    · rename_i active
      have processing := TaskInfo.processing_of_isActive active begun
      have working := h.working processing
      refine Outstanding.settled ?_ ?_ ?_ ?_ nonneg
      · rw [TaskInfo.expected_bump, h.expected]
      · intro pending
        rw [TaskInfo.state_bump] at pending
        exact absurd pending begun
      · rw [TaskInfo.finished_bump]
        omega
      · intro processed
        rw [TaskInfo.state_bump, processing] at processed
        cases processed
    · exact Outstanding.settled h.expected h.waiting h.bound h.through nonneg
  | expect m => exact absurd rfl (fixed m)
  | warn reason =>
    rw [Change.revise_of_checks rfl, Change.own_warn]
    split
    · exact Outstanding.settled h.expected h.waiting h.bound h.through nonneg
    · exact Outstanding.settled h.expected h.waiting h.bound h.through nonneg
  | move sources goal description =>
    rw [Change.revise_move]
    split
    · rename_i mem
      have moves := lawful _ mem
      have apart := target sources goal description rfl
      refine ⟨h.expected, fun pending => absurd pending moves.ne_pending, fun processing => ?_,
        h.bound, fun processed => absurd processed apart⟩
      have none : t.finished = 0 := h.waiting (moves.eq_pending processing)
      show t.finished < n
      omega
    · exact h

/-- A task that was started does not wait, and will not wait again. -/
theorem state_ne_pending (plain : ∀ c ∈ calls, c.task = id → c.replaces = false)
    (known : ∃ r, recordAfter earlier id = some r)
    (started : ∃ now, Call.start now id ∈ calls)
    (h : recordAfter (calls ++ earlier) id = some t) : t.state ≠ .pending := by
  induction calls generalizing t with
  | nil =>
    obtain ⟨now, mem⟩ := started
    cases mem
  | cons c rest ih =>
    obtain ⟨r, before⟩ := known.elim fun _ known => recordAfter_append_of_some known rest
    obtain ⟨now, mem⟩ := started
    rcases List.mem_cons.1 mem with rfl | mem
    · have after := recordAfter_cons (.start now id) (rest ++ earlier) id
      rw [if_pos (show (Call.start now id).task = id from rfl), before] at after
      rw [List.cons_append, after] at h
      cases h
      rw [Change.revise_move]
      split
      · exact fun pending => by cases pending
      · rename_i apart
        simpa using apart
    · have begun := ih (fun c mem => plain c (List.mem_cons_of_mem _ mem)) ⟨now, mem⟩ before
      rw [List.cons_append] at h
      by_cases same : c.task = id
      · have advance := advance_recordAfter (plain c (List.mem_cons_self ..) same) before h
        intro pending
        rcases advance.state with still | moves
        · exact begun (still.symm.trans pending)
        · exact moves.ne_pending pending
      · rw [recordAfter_cons, if_neg same, before] at h
        cases h
        exact begun

end

section

variable {c : Call} {calls earlier : List Call} {id : TaskId} {n : Int} {t : TaskInfo}

/-- **The records of a task stay outstanding** while calls are made in order after its
registration. -/
theorem outstanding_recordAfter (positive : 1 ≤ n) {first : TaskInfo}
    (known : recordAfter earlier id = some first) (fresh : Outstanding n first)
    (orderly : Orderly id calls)
    (h : recordAfter (calls ++ earlier) id = some t) : Outstanding n t := by
  induction calls generalizing t with
  | nil =>
    rw [List.nil_append, known] at h
    cases h
    exact fresh
  | cons c rest ih =>
    have ih {r : TaskInfo} := ih (t := r) orderly.tail
    have plain : ∀ d ∈ c :: rest, d.task = id → d.replaces = false := fun d mem same =>
      (orderly.fixed d mem same).1
    obtain ⟨r, before⟩ := recordAfter_append_of_some known rest
    rw [List.cons_append] at h
    rcases recordAfter_cons_cases h with
      same | ⟨own, -, new | new⟩ | ⟨change, r, own, hc, before, rfl⟩
    · exact ih same
    · rw [plain c (List.mem_cons_self ..) own] at new
      cases new
    · rw [before] at new
      cases new
    · refine (ih before).revise positive (Call.lawful_change hc) ?_ ?_ ?_
      · rintro m rfl
        have := (orderly.fixed c (List.mem_cons_self ..) own).2
        rw [Call.setsExpected_of_change hc] at this
        cases this
      · rintro sources target description rfl
        exact Call.target_ne_processed hc
      · rintro counter rfl
        -- an outcome comes after a start, and a task that was started does not wait
        have started := orderly.started [] c rest rfl own (Call.change?_of_isOutcome hc)
        exact state_ne_pending (fun d mem => plain d (List.mem_cons_of_mem _ mem))
          ⟨first, known⟩ started before

theorem recordAfter_register {now : Timestamp} {topology : String} {owner : Option String}
    {replace : Bool} (accepted : replace = true ∨ recordAfter earlier id = none) :
    recordAfter (.register now id topology n owner replace :: earlier) id
      = some (.new now id topology n owner) := by
  have own : (Call.register now id topology n owner replace).task = id := rfl
  rw [recordAfter_cons, if_pos own]
  rcases accepted with rfl | unknown
  · rfl
  · rw [unknown]
    cases replace <;> rfl

end

/-- What holds of completion once a history of calls has happened. -/
structure Completion (history : List Call) : Prop where
  /-- A call that looks for completion completes a task exactly if, by what the call has done
  itself, the task is in progress and at least as many of its records are counted as expected. -/
  due : ∀ c : Call, c.checks = true → ∀ id, Completes history c id ↔
    c.task = id ∧ ∃ t, recordAfter history id = some t ∧ (c.own t).state = .processing ∧
      0 ≤ (c.own t).expected ∧
      (c.own t).expected ≤ (c.own t).processed + (c.own t).errors + (c.own t).deleted
        + (c.own t).postProcessed
  /-- The task has then failed for the first reason that was noted while it was active, and is
  processed if there is none. -/
  verdict : ∀ c id, Completes history c id → ∃ u, recordAfter (c :: history) id = some u ∧
    match firstReason id (c :: history) with
    | some reason => u.state = .failed ∧ u.description = reason
    | none => u.state = .processed
  /-- A report answers a state exactly if it has completed its task, in that state. -/
  answer : ∀ c : Call, c.isReport = true → ∀ state,
    (c.run (afterAll history)).1 = .ok (.ended (some state)) ↔
      Completes history c c.task ∧ ∃ u, recordAfter (c :: history) c.task = some u ∧
        u.state = state
  /-- A task of which a reason to fail was noted while it was active is never processed. -/
  doomed : ∀ later now id reason, (∀ c ∈ later, c.task = id → c.replaces = false) →
    (recordAfter history id).any TaskInfo.isActive = true →
    ∀ t, recordAfter (later ++ .fatal now id reason :: history) id = some t →
      t.state ≠ .processed
  /-- A task whose expected number is not known is not completed. -/
  unknown : ∀ c id u, recordAfter (c :: history) id = some u → u.expected < 0 →
    ¬ Completes history c id
  /-- A task is completed once for each of its registrations. -/
  once : ∀ later c d id, Completes history c id → Completes (later ++ c :: history) d id →
    ∃ r ∈ later, r.task = id ∧ r.replaces = true
  /-- If a task is registered with the number of its records, and calls come in order from then
  on, its finished count never exceeds that number, stays below it while the task is in progress,
  and is that number when the task is completed. -/
  exact : ∀ now id topology n owner replace calls, 1 ≤ n →
    (replace = true ∨ recordAfter history id = none) → Orderly id calls →
    ∃ t, recordAfter (calls ++ .register now id topology n owner replace :: history) id = some t ∧
      t.finished ≤ n ∧ (t.state = .processing → t.finished < n) ∧
      (t.state = .processed → t.finished = n) ∧
      ∀ c, Orderly id (c :: calls) →
        Completes (calls ++ .register now id topology n owner replace :: history) c id →
        ∃ u, recordAfter (c :: calls ++ .register now id topology n owner replace :: history) id
          = some u ∧ u.finished = n

/-- **Completion happens exactly when it is due**, whatever was called before and in whatever
order. -/
theorem completion_when_due (history : List Call) : Completion history where
  due c checks id := by
    simp only [completes_iff checks, TaskInfo.isDue_iff, TaskInfo.finished]
  verdict c id h := by
    obtain ⟨t, -, -, -, after⟩ := recordAfter_of_completes h
    refine ⟨_, after, ?_⟩
    have reason := fatal_recordAfter after
    have same : ((c.own t).completed c.now).fatal = (c.own t).fatal := rfl
    rw [← reason, same]
    cases noted : (c.own t).fatal with
    | none => simp [TaskInfo.completed, TaskInfo.moved, TaskInfo.verdict, noted]
    | some reason => simp [TaskInfo.completed, TaskInfo.moved, TaskInfo.verdict, noted]
  answer c report state := run_isReport_iff report state
  doomed later now id reason plain active t h := state_ne_processed_of_fatal plain active h
  unknown c id u after negative h := by
    obtain ⟨t, -, -, due, completed⟩ := recordAfter_of_completes h
    rw [completed] at after
    cases after
    have nonneg : 0 ≤ (c.own t).expected := (TaskInfo.isDue_iff.1 due).2.1
    have same : ((c.own t).completed c.now).expected = (c.own t).expected := rfl
    rw [same] at negative
    omega
  once later c d id first again := completes_once first again
  exact now id topology n owner replace calls positive accepted orderly := by
    have known : recordAfter (.register now id topology n owner replace :: history) id
        = some (.new now id topology n owner) := recordAfter_register accepted
    have fresh := Outstanding.new positive now id topology owner
    obtain ⟨t, found⟩ := recordAfter_append_of_some known calls
    have here := outstanding_recordAfter positive known fresh orderly found
    refine ⟨t, found, here.bound, here.working, here.through, fun c orderly h => ?_⟩
    obtain ⟨r, -, -, due, after⟩ := recordAfter_of_completes h
    have there := outstanding_recordAfter positive known fresh orderly after
    refine ⟨_, after, Int.le_antisymm there.bound ?_⟩
    have reached := (TaskInfo.isDue_iff.1 due).2.2
    have expected : (c.own r).expected = n := there.expected
    rw [expected] at reached
    exact reached

end Tracker

end Conveyor
