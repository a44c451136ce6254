import Conveyor.Proofs.Tracker.Calls

/-!
# The life of a task

A task waits, comes into progress and ends, and does not come back from its end.  Everything here
is about one record and one change at first; a history of calls is a sequence of such changes.

* `TaskState.Moves` — the moves of a task between states.
* `TaskInfo.Advance` — how a call may change a record: at most one move, at most one count.
* **`Change.advance_revise`**, **`Change.revise_of_terminal`** — what one change may do, and that it
  leaves a task alone that is done.
* **`lifecycle`** — what holds of every task after every history of calls.
-/

namespace Conveyor

namespace TaskState

/-- The moves of a task between states. -/
inductive Moves : TaskState → TaskState → Prop where
  | start : Moves pending processing
  | drop {s : TaskState} (h : s.isTerminal = false) : Moves s dropped
  | fail {s : TaskState} (h : s.isTerminal = false) : Moves s failed
  | process : Moves processing processed

theorem Moves.not_terminal {s u : TaskState} (h : s.Moves u) : s.isTerminal = false := by
  cases h with
  | start => rfl
  | drop h => exact h
  | fail h => exact h
  | process => rfl

theorem Moves.ne_pending {s u : TaskState} (h : s.Moves u) : u ≠ .pending := by
  rintro rfl
  cases h

theorem Moves.eq_pending {s u : TaskState} (h : s.Moves u) (begun : u = .processing) :
    s = .pending := by
  subst begun
  cases h
  rfl

end TaskState

namespace TaskInfo

/-- How one call may change a record: the state moves at most once, and at most one of the four
counts is raised, by one. -/
structure Advance (t u : TaskInfo) : Prop where
  state : u.state = t.state ∨ t.state.Moves u.state
  count : (∀ d, u.count d = t.count d) ∨
    ∃ c, ∀ d, u.count d = t.count d + if d = c then 1 else 0

/-- What holds of the times of a record: it has an end if it is done, and a beginning if it is in
progress. -/
structure Dated (t : TaskInfo) : Prop where
  finished : t.finishedAt.isSome = t.state.isTerminal
  started : t.state = .processing → t.startedAt.isSome

variable {t : TaskInfo}

theorem count_bump (t : TaskInfo) (c d : Counter) :
    (t.bump c).count d = t.count d + if d = c then 1 else 0 := by
  cases c <;> cases d <;> simp [bump, count]

@[simp] theorem state_bump (t : TaskInfo) (c : Counter) : (t.bump c).state = t.state := by
  cases c <;> rfl

@[simp] theorem finishedAt_bump (t : TaskInfo) (c : Counter) :
    (t.bump c).finishedAt = t.finishedAt := by
  cases c <;> rfl

@[simp] theorem startedAt_bump (t : TaskInfo) (c : Counter) :
    (t.bump c).startedAt = t.startedAt := by
  cases c <;> rfl

/-- A move begins a task if it is to be in progress. -/
theorem startedAt_moved (now : Timestamp) (target : TaskState) (description : String)
    (t : TaskInfo) :
    (t.moved now target description).startedAt.isSome = true ↔
      t.startedAt.isSome = true ∨ (t.moved now target description).state = .processing := by
  by_cases begins : target = .processing
  · cases started : t.startedAt <;> simp [moved, begins, started]
  · simp [moved, begins]

theorem verdict_moves (t : TaskInfo) : TaskState.processing.Moves t.verdict := by
  rw [verdict]
  split
  · exact .fail rfl
  · exact .process

theorem verdict_isTerminal (t : TaskInfo) : t.verdict.isTerminal = true := by
  rw [verdict]
  split <;> rfl

theorem verdict_ne_processing (t : TaskInfo) : t.verdict ≠ .processing := by
  rw [verdict]
  split <;> decide

@[simp] theorem count_settled (now : Timestamp) (t : TaskInfo) (d : Counter) :
    (t.settled now).count d = t.count d := by
  rw [settled]
  split
  · cases d <;> rfl
  · rfl

theorem state_settled (now : Timestamp) (t : TaskInfo) :
    (t.settled now).state = t.state ∨
      t.state = .processing ∧ (t.settled now).state = t.verdict := by
  rw [settled]
  split
  · rename_i due
    exact .inr ⟨(isDue_iff.1 due).1, rfl⟩
  · exact .inl rfl

@[simp] theorem startedAt_settled (now : Timestamp) (t : TaskInfo) :
    (t.settled now).startedAt = t.startedAt := by
  rw [settled]
  split
  · have : t.verdict ≠ .processing := t.verdict_ne_processing
    simp [completed, moved, this]
  · rfl

theorem Dated.settled {now : Timestamp} (h : t.Dated) : (t.settled now).Dated := by
  rw [TaskInfo.settled]
  split
  · refine ⟨?_, fun processing => absurd processing t.verdict_ne_processing⟩
    simp [completed, moved, t.verdict_isTerminal]
  · exact h

theorem settled_of_terminal {now : Timestamp} (h : t.state.isTerminal = true) :
    t.settled now = t := by
  have idle : t.isDue = false := isDue_eq_false (by simp [isActive, h])
  simp [TaskInfo.settled, idle]

end TaskInfo

namespace Tracker

/-! ## One change -/

namespace Change

/-- Whether a change moves tasks only as tasks may move. -/
def Lawful : Change → Prop
  | move sources target _ => ∀ s ∈ sources, s.Moves target
  | _ => True

variable {change : Change} {now : Timestamp} {t : TaskInfo}

theorem own_count (counter : Counter) :
    (count counter).own now t = if t.isActive then t.bump counter else t := rfl

theorem own_expect (n : Int) : (expect n).own now t = { t with expected := n } := rfl

theorem own_warn (reason : String) :
    (warn reason).own now t
      = if t.isActive then { t with fatal := t.fatal <|> some reason } else t := rfl

theorem own_move (sources : List TaskState) (target : TaskState) (description : String) :
    (move sources target description).own now t
      = if t.state ∈ sources then t.moved now target description else t := by
  by_cases h : t.state ∈ sources <;> simp [own, amendment, Amendment.when, Amendment.move, h]

theorem revise_of_checks (h : change.checks = true) (now : Timestamp) (t : TaskInfo) :
    change.revise now t = (change.own now t).settled now := if_pos h

theorem revise_move (sources : List TaskState) (target : TaskState) (description : String)
    (now : Timestamp) (t : TaskInfo) :
    (move sources target description).revise now t
      = if t.state ∈ sources then t.moved now target description else t :=
  own_move sources target description

/-- A change that looks for completion does not itself move the task. -/
theorem state_own_of_checks (h : change.checks = true) (now : Timestamp) (t : TaskInfo) :
    (change.own now t).state = t.state := by
  cases change with
  | count counter =>
    rw [own_count]
    split <;> simp
  | expect n => rfl
  | warn reason =>
    rw [own_warn]
    split <;> rfl
  | move => cases h

theorem startedAt_own_of_checks (h : change.checks = true) (now : Timestamp) (t : TaskInfo) :
    (change.own now t).startedAt = t.startedAt := by
  cases change with
  | count counter =>
    rw [own_count]
    split <;> simp
  | expect n => rfl
  | warn reason =>
    rw [own_warn]
    split <;> rfl
  | move => cases h

theorem startedAt_revise_of_checks (h : change.checks = true) :
    (change.revise now t).startedAt = t.startedAt := by
  rw [revise, if_pos h, TaskInfo.startedAt_settled, startedAt_own_of_checks h]

theorem count_own (change : Change) (now : Timestamp) (t : TaskInfo) :
    (∀ d, (change.own now t).count d = t.count d) ∨
      ∃ c, ∀ d, (change.own now t).count d = t.count d + if d = c then 1 else 0 := by
  cases change with
  | count counter =>
    rw [own_count]
    split
    · exact .inr ⟨counter, t.count_bump counter⟩
    · exact .inl fun _ => rfl
  | expect n => exact .inl fun d => by cases d <;> rfl
  | warn reason =>
    refine .inl fun d => ?_
    rw [own_warn]
    split <;> cases d <;> rfl
  | move sources target description =>
    refine .inl fun d => ?_
    rw [own_move]
    split <;> cases d <;> rfl

/-- **A change is an advance.** -/
theorem advance_revise (lawful : change.Lawful) (now : Timestamp) (t : TaskInfo) :
    t.Advance (change.revise now t) := by
  rw [revise]
  split
  · rename_i checks
    have same := state_own_of_checks checks now t
    constructor
    · rcases (change.own now t).state_settled now with h | ⟨h, verdict⟩
      · exact .inl (h.trans same)
      · rw [verdict, ← same, h]
        exact .inr (TaskInfo.verdict_moves _)
    · simp only [TaskInfo.count_settled]
      exact change.count_own now t
  · refine ⟨?_, change.count_own now t⟩
    cases change with
    | move sources target description =>
      rw [own_move]
      split
      · rename_i mem
        exact .inr (lawful _ mem)
      · exact .inl rfl
    | _ => simp [checks] at *

/-- **A task that is done stays as it is**, but for its expected number. -/
theorem revise_of_terminal (lawful : change.Lawful) (h : t.state.isTerminal = true) :
    change.revise now t = { t with expected := (change.revise now t).expected } := by
  have idle : t.isActive = false := by simp [TaskInfo.isActive, h]
  cases change with
  | count counter => simp [revise, checks, own_count, idle, TaskInfo.settled_of_terminal h]
  | expect n =>
    have done : ({ t with expected := n } : TaskInfo).state.isTerminal = true := h
    simp [revise, checks, own_expect, TaskInfo.settled_of_terminal done]
  | warn reason => simp [revise, checks, own_warn, idle, TaskInfo.settled_of_terminal h]
  | move sources target description =>
    have apart : t.state ∉ sources := fun mem => by
      simp [(lawful _ mem).not_terminal] at h
    simp [revise, checks, own_move, apart]

theorem verdict_of_terminal (h : change.checks = true) (done : t.state.isTerminal = true) :
    change.verdict now (some t) = none := by
  have idle : (change.own now t).isDue = false :=
    TaskInfo.isDue_eq_false (by simp [TaskInfo.isActive, state_own_of_checks h, done])
  simp [verdict, idle, Option.filter_some]

theorem dated_revise (lawful : change.Lawful) (h : t.Dated) : (change.revise now t).Dated := by
  cases change with
  | count counter =>
    refine TaskInfo.Dated.settled ?_
    rw [own_count]
    split
    · exact ⟨by simpa using h.finished, by simpa using h.started⟩
    · exact h
  | expect n => exact TaskInfo.Dated.settled ⟨h.finished, h.started⟩
  | warn reason =>
    refine TaskInfo.Dated.settled ?_
    rw [own_warn]
    split
    · exact ⟨h.finished, h.started⟩
    · exact h
  | move sources target description =>
    show ((move sources target description).own now t).Dated
    rw [own_move]
    split
    · rename_i mem
      have open_ := (lawful _ mem).not_terminal
      constructor
      · by_cases done : target.isTerminal = true
        · simp [TaskInfo.moved, done]
        · simp [TaskInfo.moved, done, h.finished, open_]
      · intro processing
        exact (TaskInfo.startedAt_moved now target description t).2 (.inr processing)
    · exact h

/-- **A task has a beginning** after a change if it had one before, or is in progress now. -/
theorem startedAt_revise (lawful : change.Lawful) (h : t.Dated) :
    (change.revise now t).startedAt.isSome = true ↔
      t.startedAt.isSome = true ∨ (change.revise now t).state = .processing := by
  have dated : (change.revise now t).Dated := dated_revise lawful h
  cases change with
  | move sources target description =>
    rw [revise_move]
    split
    · exact TaskInfo.startedAt_moved now target description t
    · constructor
      · exact .inl
      · rintro (some | processing)
        · exact some
        · exact h.started processing
  | _ =>
    rw [startedAt_revise_of_checks rfl]
    constructor
    · exact .inl
    · rintro (some | processing)
      · exact some
      · have some := dated.started processing
        rwa [startedAt_revise_of_checks rfl] at some

end Change

/-! ## One call -/

namespace Call

/-- The changes of the tracker move tasks only as tasks may move. -/
theorem lawful_change {c : Call} {change : Change} (h : c.change? = some change) :
    change.Lawful := by
  cases c with
  | register => cases h
  | start =>
    cases h
    intro s mem
    obtain rfl := List.mem_singleton.1 mem
    exact .start
  | dropTask =>
    cases h
    exact fun s mem => .drop (TaskState.mem_active_iff.1 mem)
  | failTask =>
    cases h
    exact fun s mem => .fail (TaskState.mem_active_iff.1 mem)
  | _ =>
    cases h
    trivial

/-- Whether a call reports something that may complete its task. -/
def isReport : Call → Bool
  | processed .. | failed .. | deleted .. | postProcessed .. | fatal .. => true
  | _ => false

/-- Whether a call asks to move its task to another state. -/
def isMove : Call → Bool
  | start .. | dropTask .. | failTask .. => true
  | _ => false

theorem change?_of_isReport {c : Call} (h : c.isReport = true) :
    ∃ change, c.change? = some change ∧ change.checks = true ∧
      ∀ o, change.answer c.now o = .ended (change.verdict c.now o) := by
  cases c with
  | processed | failed | deleted | postProcessed | fatal => exact ⟨_, rfl, rfl, fun _ => rfl⟩
  | _ => cases h

theorem change?_of_isMove {c : Call} (h : c.isMove = true) :
    ∃ sources target description, c.change? = some (.move sources target description) := by
  cases c with
  | start | dropTask | failTask => exact ⟨_, _, _, rfl⟩
  | _ => cases h

variable {c : Call} {tr : MemoryTracker} {t : TaskInfo}

/-- A report on a task that is done completes nothing. -/
theorem run_of_isReport (report : c.isReport = true) (found : tr.progress c.task = some t)
    (done : t.state.isTerminal = true) : (c.run tr).1 = .ok (.ended none) := by
  obtain ⟨change, hc, checks, answer⟩ := change?_of_isReport report
  rw [run_fst, Call.answer, hc, found]
  show Except.ok (change.answer c.now (some t)) = _
  rw [answer, Change.verdict_of_terminal checks done]

theorem run_of_isMove (move : c.isMove = true) (found : tr.progress c.task = some t)
    (done : t.state.isTerminal = true) : (c.run tr).1 = .ok (.moved false) := by
  obtain ⟨sources, target, description, hc⟩ := change?_of_isMove move
  have apart : t.state ∉ sources := fun mem => by
    have := (lawful_change hc _ mem).not_terminal
    rw [done] at this
    cases this
  rw [run_fst, Call.answer, hc, found]
  show Except.ok (Answer.moved (decide (t.state ∈ sources))) = _
  simp [apart]

end Call

/-! ## A history of calls -/

section

variable {c : Call} {history earlier later : List Call} {id : TaskId} {t u : TaskInfo}

/-- **What a call makes of a known task**, unless it replaces it, is an advance. -/
theorem advance_recordAfter (plain : c.replaces = false) (before : recordAfter earlier id = some t)
    (h : recordAfter (c :: earlier) id = some u) : t.Advance u := by
  rcases recordAfter_cons_cases h with same | ⟨-, -, new | new⟩ | ⟨change, r, -, hc, found, rfl⟩
  · obtain rfl : t = u := Option.some.inj (before.symm.trans same)
    exact ⟨.inl rfl, .inl fun _ => rfl⟩
  · rw [plain] at new
    cases new
  · rw [before] at new
    cases new
  · obtain rfl : t = r := Option.some.inj (before.symm.trans found)
    exact Change.advance_revise (Call.lawful_change hc) c.now t

theorem dated_recordAfter (h : recordAfter history id = some t) : t.Dated := by
  induction history generalizing t with
  | nil => cases h
  | cons c earlier ih =>
    rcases recordAfter_cons_cases h with same | ⟨-, fresh, -⟩ | ⟨change, r, -, hc, found, rfl⟩
    · exact ih same
    · obtain ⟨now, id, topology, expected, owner, rfl⟩ := Call.fresh?_eq_some fresh
      exact ⟨rfl, fun h => by cases h⟩
    · exact Change.dated_revise (Call.lawful_change hc) (ih found)

theorem recordAfter_eq_none (h : recordAfter history id = none) (suffix : earlier <:+ history) :
    recordAfter earlier id = none := by
  induction history with
  | nil =>
    obtain rfl := List.suffix_nil.1 suffix
    exact h
  | cons c rest ih =>
    rcases List.suffix_cons_iff.1 suffix with rfl | suffix
    · exact h
    · refine ih ?_ suffix
      cases before : recordAfter rest id with
      | none => rfl
      | some t =>
        obtain ⟨u, after⟩ := recordAfter_cons_of_some (c := c) before
        rw [h] at after
        cases after

/-- **A task has a beginning** if it was in progress at some moment. -/
theorem startedAt_recordAfter (plain : ∀ c ∈ history, c.replaces = false)
    (h : recordAfter history id = some t) :
    t.startedAt.isSome = true ↔ ∃ earlier r, earlier <:+ history ∧
      recordAfter earlier id = some r ∧ r.state = .processing := by
  induction history generalizing t with
  | nil => cases h
  | cons c rest ih =>
    have ih {r : TaskInfo} := ih (t := r) fun c mem => plain c (List.mem_cons_of_mem _ mem)
    -- a moment of the longer history is the latest one, or a moment of the shorter history
    have split : (∃ earlier r, earlier <:+ c :: rest ∧ recordAfter earlier id = some r ∧
          r.state = .processing) ↔
        t.state = .processing ∨ ∃ earlier r, earlier <:+ rest ∧
          recordAfter earlier id = some r ∧ r.state = .processing := by
      constructor
      · rintro ⟨earlier, r, suffix, found, processing⟩
        rcases List.suffix_cons_iff.1 suffix with rfl | suffix
        · rw [h] at found
          cases found
          exact .inl processing
        · exact .inr ⟨earlier, r, suffix, found, processing⟩
      · rintro (processing | ⟨earlier, r, suffix, found, processing⟩)
        · exact ⟨_, t, List.suffix_rfl, h, processing⟩
        · exact ⟨earlier, r, suffix.trans (List.suffix_cons c rest), found, processing⟩
    rw [split]
    have here := dated_recordAfter h
    rcases recordAfter_cons_cases h with before | ⟨-, fresh, new⟩ | ⟨change, r, -, hc, before, rfl⟩
    · rw [← ih before]
      exact ⟨.inr, fun h => h.elim here.started fun h => h⟩
    · have unknown : recordAfter rest id = none := by
        rcases new with replaces | unknown
        · rw [plain c (List.mem_cons_self ..)] at replaces
          cases replaces
        · exact unknown
      obtain ⟨now, task, topology, expected, owner, rfl⟩ := Call.fresh?_eq_some fresh
      constructor
      · intro h
        cases h
      · rintro (h | ⟨earlier, r, suffix, found, -⟩)
        · cases h
        · rw [recordAfter_eq_none unknown suffix] at found
          cases found
    · rw [Change.startedAt_revise (Call.lawful_change hc) (dated_recordAfter before), ih before]
      exact or_comm

/-- **A task that is done stays as it is**, but for its expected number. -/
theorem recordAfter_append_of_terminal
    (plain : ∀ c ∈ later, c.task = id → c.replaces = false)
    (h : recordAfter history id = some t) (done : t.state.isTerminal = true) :
    ∃ n, recordAfter (later ++ history) id = some { t with expected := n } := by
  induction later with
  | nil => exact ⟨t.expected, h⟩
  | cons c rest ih =>
    obtain ⟨n, before⟩ := ih fun c mem => plain c (List.mem_cons_of_mem _ mem)
    obtain ⟨u, after⟩ := recordAfter_cons_of_some (c := c) before
    refine ⟨u.expected, after.trans (congrArg some ?_)⟩
    rcases recordAfter_cons_cases after with
      same | ⟨own, -, new | new⟩ | ⟨change, r, -, hc, found, rfl⟩
    · rw [before] at same
      cases same
      rfl
    · rw [plain c (List.mem_cons_self ..) own] at new
      cases new
    · rw [before] at new
      cases new
    · rw [before] at found
      cases found
      exact Change.revise_of_terminal (Call.lawful_change hc) done

end

/-- What holds of all tasks once a history of calls has happened, none of which replaced a
record. -/
structure Lifecycle (history : List Call) : Prop where
  /-- A call leaves all tasks alone but its own. -/
  others : ∀ (c : Call) id, c.task ≠ id → recordAfter (c :: history) id = recordAfter history id
  /-- A task that becomes known waits, and nothing is counted of it. -/
  first : ∀ c id u, recordAfter history id = none → recordAfter (c :: history) id = some u →
    u.state = .pending ∧ ∀ d, u.count d = 0
  /-- A call moves a known task at most once, as tasks may move, and raises at most one of its
  counts, by one. -/
  advance : ∀ c : Call, c.replaces = false → ∀ id t, recordAfter history id = some t →
    ∃ u, recordAfter (c :: history) id = some u ∧ t.Advance u
  /-- A task has an end just if it is done. -/
  finished : ∀ id t, recordAfter history id = some t →
    (t.finishedAt.isSome = true ↔ t.state.isTerminal = true)
  /-- A task has a beginning just if it came into progress. -/
  started : ∀ id t, recordAfter history id = some t →
    (t.startedAt.isSome = true ↔ ∃ earlier r, earlier <:+ history ∧
      recordAfter earlier id = some r ∧ r.state = .processing)
  /-- Of a task that is done nothing changes any more but the expected number. -/
  frozen : ∀ later : List Call, (∀ c ∈ later, c.replaces = false) → ∀ id t,
    recordAfter history id = some t → t.state.isTerminal = true →
    ∃ n, recordAfter (later ++ history) id = some { t with expected := n }
  /-- No later report completes it again, and no later call moves it. -/
  silent : ∀ later : List Call, (∀ c ∈ later, c.replaces = false) → ∀ (c : Call) t,
    recordAfter history c.task = some t → t.state.isTerminal = true →
    (c.isReport = true → (c.run (afterAll (later ++ history))).1 = .ok (.ended none)) ∧
    (c.isMove = true → (c.run (afterAll (later ++ history))).1 = .ok (.moved false))

/-- **The life of a task.**  Whatever is called and in whatever order, tasks move only from waiting
to progress to their end, and stay there. -/
theorem lifecycle (history : List Call) (plain : ∀ c ∈ history, c.replaces = false) :
    Lifecycle history where
  others c id apart := by rw [recordAfter_cons, if_neg apart]
  first c id u unknown h := by
    rcases recordAfter_cons_cases h with same | ⟨-, fresh, -⟩ | ⟨change, r, -, -, found, -⟩
    · rw [unknown] at same
      cases same
    · obtain ⟨now, id, topology, expected, owner, rfl⟩ := Call.fresh?_eq_some fresh
      exact ⟨rfl, fun d => by cases d <;> rfl⟩
    · rw [unknown] at found
      cases found
  advance c plain id t before := by
    obtain ⟨u, after⟩ := recordAfter_cons_of_some (c := c) before
    exact ⟨u, after, advance_recordAfter plain before after⟩
  finished id t h := by rw [(dated_recordAfter h).finished]
  started id t h := startedAt_recordAfter plain h
  frozen later plain id t h done :=
    recordAfter_append_of_terminal (fun c mem _ => plain c mem) h done
  silent later plain c t h done := by
    obtain ⟨n, found⟩ :=
      recordAfter_append_of_terminal (fun c mem _ => plain c mem) h done
    have there := found
    exact ⟨fun report => Call.run_of_isReport report there done,
      fun move => Call.run_of_isMove move there done⟩

/-- A task of one record that comes through, and what is called once it is done. -/
theorem lifecycle_one_record :
    (∀ c ∈ [Call.processed .epoch ⟨7⟩, .start .epoch ⟨7⟩,
        .register .epoch ⟨7⟩ "validation" 1 none false], c.replaces = false) ∧
      (recordAfter [.processed .epoch ⟨7⟩, .start .epoch ⟨7⟩,
        .register .epoch ⟨7⟩ "validation" 1 none false] ⟨7⟩).map TaskInfo.state
          = some .processed ∧
      Lifecycle [.processed .epoch ⟨7⟩, .start .epoch ⟨7⟩,
        .register .epoch ⟨7⟩ "validation" 1 none false] :=
  ⟨by decide, by decide, lifecycle _ (by decide)⟩

end Tracker

end Conveyor
