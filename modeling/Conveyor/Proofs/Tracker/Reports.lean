import Conveyor.Proofs.Interleaving
import Conveyor.Proofs.Tracker.Completion

/-!
# Reports at the same time

The report of the end of a record is announced, if it is one that is, then counted, and if the count
was accepted it is looked whether that completed the task.  These are up to three calls of stores,
and between them other reports may do any of theirs.  Even so nothing is lost: whenever all expected
records are counted and the task is not done yet, there is a report that has yet to look.

* `Report` and `Reporting` — a report, and how far it has come; `Reporting.next` is its next call.
* `Reporting.run_alone` — a report that is not disturbed does what the call of the tracker does.
* `Reporting.Turn` — what the next call does to the record of the task and to the report.
* `Tally` — what holds of the reports and the record at any time.
* **`reports_complete_once`** — once all reports have returned, the task is done, one report has
  said so, and the counts are those of the accepted reports.
-/

namespace Conveyor

namespace Tracker

section

variable {α : Type} {x : Action MemoryTracker StoreError α} {id : TaskId} {f : TaskInfo → TaskInfo}
  {ns : List Notification} {a : Option TaskInfo → α} {tr : MemoryTracker} {t : TaskInfo}

theorem Revises.succeeds (h : Revises x id f ns a) (tr : MemoryTracker) :
    ∃ answer tr', x tr = (.ok answer, tr') := by
  obtain ⟨tasks, run, -⟩ := h tr
  exact ⟨_, _, run⟩

theorem Revises.of_some (h : Revises x id f ns a) (found : tr.progress id = some t) :
    ∃ tr', x tr = (.ok (a (some t)), tr') ∧ tr'.progress id = some (f t) := by
  obtain ⟨tasks, run, after⟩ := h tr
  rw [found] at run
  refine ⟨_, run, ?_⟩
  exact (after id).trans (by rw [if_pos rfl, found, Option.map_some])

end

/-! ## Reports -/

/-- The report of the end of a record. -/
structure Report where
  call : Call
  counter : Counter
  counts : call.change? = some (.count counter)

/-- How far a report has come. -/
inductive Phase where
  | announcing (n : Notification)
  | counting
  | settling
  /-- It has answered, and the count was accepted or refused. -/
  | returned (accepted : Bool) (answer : Option TaskState)
deriving DecidableEq

/-- A report under way. -/
structure Reporting where
  report : Report
  phase : Phase

/-- The report before its first call of a store. -/
def Report.begun (r : Report) : Reporting :=
  ⟨r, match r.call.announced with
    | [] => .counting
    | n :: _ => .announcing n⟩

namespace Reporting

/-- The next call that a report makes. -/
def next : Routine MemoryTracker StoreError Reporting
  | ⟨r, .announcing n⟩ => some do
      onNotices (NotificationSink.notify n)
      pure ⟨r, .counting⟩
  | ⟨r, .counting⟩ => some do
      let accepted ← onTasks (TaskStore.increment r.call.task r.counter)
      pure ⟨r, if accepted then .settling else .returned false none⟩
  | ⟨r, .settling⟩ => some do
      let answer ← evaluate r.call.now r.call.task
      pure ⟨r, .returned true answer⟩
  | ⟨_, .returned ..⟩ => none

/-- Whether the report was counted. -/
def isAccepted (l : Reporting) : Bool :=
  match l.phase with
  | .settling => true
  | .returned accepted _ => accepted
  | _ => false

/-- Whether the report was counted as one of a kind. -/
def isCounted (counter : Counter) (l : Reporting) : Bool :=
  l.isAccepted && l.report.counter = counter

def isRefused (l : Reporting) : Bool :=
  match l.phase with
  | .returned accepted _ => !accepted
  | _ => false

/-- Whether the report has returned. -/
def isOver (l : Reporting) : Bool :=
  match l.phase with
  | .returned .. => true
  | _ => false

/-- The state in which the report says that it completed the task. -/
def answered (l : Reporting) : Option TaskState :=
  match l.phase with
  | .returned _ answer => answer
  | _ => none

/-! ## A report that is not disturbed -/

theorem run_counting (r : Report) (tr : MemoryTracker) :
    ∃ accepted answer tr', bump r.call.now r.call.task r.counter tr = (.ok answer, tr') ∧
      Crew.Run next ⟨[⟨r, .counting⟩], tr⟩ ⟨[⟨r, .returned accepted answer⟩], tr'⟩ := by
  obtain ⟨accepted, tr₁, counted⟩ : ∃ accepted tr₁,
      onTasks (TaskStore.increment r.call.task r.counter) tr = (.ok accepted, tr₁) :=
    (revises_onTasks r.call.task TaskInfo.isActive (.bump r.counter) Option.isSome).succeeds tr
  have count : Crew.Step next ⟨[⟨r, .counting⟩], tr⟩
      ⟨[⟨r, if accepted then .settling else .returned false none⟩], tr₁⟩ :=
    .alone rfl (Action.bind_of_ok counted)
  have whole : bump r.call.now r.call.task r.counter tr
      = (if accepted then evaluate r.call.now r.call.task else pure none) tr₁ :=
    Action.bind_of_ok counted
  cases accepted with
  | false => exact ⟨false, none, tr₁, whole, .single count⟩
  | true =>
    obtain ⟨answer, tr₂, settled⟩ := (revises_evaluate r.call.now r.call.task).succeeds tr₁
    exact ⟨true, answer, tr₂, whole.trans settled,
      .tail (.single count) (.alone rfl (Action.bind_of_ok settled))⟩

theorem run_announcing (r : Report) (n : Notification) (tr : MemoryTracker) :
    ∃ accepted answer tr', (do
        onNotices (NotificationSink.notify n)
        bump r.call.now r.call.task r.counter) tr = (.ok answer, tr') ∧
      Crew.Run next ⟨[⟨r, .announcing n⟩], tr⟩ ⟨[⟨r, .returned accepted answer⟩], tr'⟩ := by
  obtain ⟨accepted, answer, tr', whole, run⟩ :=
    run_counting r ⟨tr.tasks, ⟨tr.notices.entries ++ [n]⟩⟩
  exact ⟨accepted, answer, tr', whole, .head (.alone rfl rfl) run⟩

/-- **A report that is not disturbed** does what the call of the tracker does. -/
theorem run_alone (r : Report) (tr : MemoryTracker) :
    ∃ accepted answer tr', r.call.run tr = (.ok (.ended answer), tr') ∧
      Crew.Run next ⟨[r.begun], tr⟩ ⟨[⟨r, .returned accepted answer⟩], tr'⟩ := by
  have ended : ∀ {x : Action MemoryTracker StoreError (Option TaskState)} {answer tr'},
      x tr = (.ok answer, tr') → (Answer.ended <$> x) tr = (.ok (.ended answer), tr') := by
    intro x answer tr' run
    rw [map_eq_pure_bind, Action.bind_of_ok run]
    rfl
  obtain ⟨call, counter, counts⟩ := r
  cases call with
  | processed now id =>
    cases counts
    obtain ⟨accepted, answer, tr', whole, run⟩ := run_counting ⟨.processed now id, _, rfl⟩ tr
    exact ⟨accepted, answer, tr', ended whole, run⟩
  | failed now e =>
    cases counts
    obtain ⟨accepted, answer, tr', whole, run⟩ := run_announcing ⟨.failed now e, _, rfl⟩ _ tr
    exact ⟨accepted, answer, tr', ended whole, run⟩
  | deleted now id resource =>
    cases counts
    obtain ⟨accepted, answer, tr', whole, run⟩ :=
      run_announcing ⟨.deleted now id resource, _, rfl⟩ _ tr
    exact ⟨accepted, answer, tr', ended whole, run⟩
  | postProcessed now id =>
    cases counts
    obtain ⟨accepted, answer, tr', whole, run⟩ := run_counting ⟨.postProcessed now id, _, rfl⟩ tr
    exact ⟨accepted, answer, tr', ended whole, run⟩
  | _ => cases counts

/-! ## What a step does -/

/-- No call that a report makes fails. -/
theorem sound_next (c : Crew MemoryTracker Reporting) : c.Sound next := by
  intro l _ act next
  obtain ⟨r, phase⟩ := l
  cases phase with
  | announcing n =>
    cases next
    exact ⟨_, _, rfl⟩
  | counting =>
    cases next
    obtain ⟨accepted, tr, counted⟩ := (revises_onTasks r.call.task TaskInfo.isActive
      (.bump r.counter) Option.isSome).succeeds c.shared
    exact ⟨_, tr, Action.bind_of_ok counted⟩
  | settling =>
    cases next
    obtain ⟨answer, tr, settled⟩ := (revises_evaluate r.call.now r.call.task).succeeds c.shared
    exact ⟨_, tr, Action.bind_of_ok settled⟩
  | returned => cases next

/-- As long as there is a report that has not returned, one can go on. -/
theorem exists_step {c : Crew MemoryTracker Reporting} {l : Reporting} (mem : l ∈ c.members)
    (busy : l.isOver = false) : ∃ c', Crew.Step next c c' := by
  refine (sound_next c).exists_step mem ?_
  obtain ⟨r, phase⟩ := l
  cases phase with
  | returned => cases busy
  | _ => exact nofun

/-- What the next call of a report does to the record of its task and to the report. -/
inductive Turn (t : TaskInfo) : Reporting → Reporting → TaskInfo → Prop where
  | announce (r : Report) (n : Notification) : Turn t ⟨r, .announcing n⟩ ⟨r, .counting⟩ t
  | accept (r : Report) (active : t.isActive = true) :
      Turn t ⟨r, .counting⟩ ⟨r, .settling⟩ (t.bump r.counter)
  | refuse (r : Report) (done : t.isActive = false) :
      Turn t ⟨r, .counting⟩ ⟨r, .returned false none⟩ t
  | wait (r : Report) (idle : t.isDue = false) : Turn t ⟨r, .settling⟩ ⟨r, .returned true none⟩ t
  | complete (r : Report) (due : t.isDue = true) :
      Turn t ⟨r, .settling⟩ ⟨r, .returned true (some t.verdict)⟩ (t.completed r.call.now)

section

variable {t u : TaskInfo} {l l' : Reporting}

theorem Turn.report_eq (turn : Turn t l l' u) : l'.report = l.report := by
  cases turn <;> rfl

theorem Turn.expected_eq (turn : Turn t l l' u) : u.expected = t.expected := by
  cases turn with
  | accept r => exact TaskInfo.expected_bump t r.counter
  | _ => rfl

theorem Turn.fatal_eq (turn : Turn t l l' u) : u.fatal = t.fatal := by
  cases turn with
  | accept r => exact TaskInfo.fatal_bump t r.counter
  | _ => rfl

/-- What is added to a count is a report that is counted from now on. -/
theorem Turn.count_eq (turn : Turn t l l' u) (k : Counter) :
    u.count k + (if l.isCounted k then 1 else 0 : Nat)
      = t.count k + (if l'.isCounted k then 1 else 0 : Nat) := by
  cases turn with
  | accept r =>
    rw [TaskInfo.count_bump]
    simp only [isCounted, isAccepted, eq_comm (a := r.counter), Bool.false_and, Bool.true_and,
      decide_eq_true_eq]
    split <;> simp
  | complete r => cases k <;> rfl
  | _ => rfl

end

theorem turn_of_next {l l' : Reporting} {act : Action MemoryTracker StoreError Reporting}
    {tr tr' : MemoryTracker} {t : TaskInfo} (here : next l = some act)
    (run : act tr = (.ok l', tr')) (found : tr.progress l.report.call.task = some t) :
    ∃ u, tr'.progress l.report.call.task = some u ∧ Turn t l l' u := by
  obtain ⟨r, phase⟩ := l
  cases phase with
  | announcing n =>
    cases here
    cases run
    exact ⟨t, found, .announce r n⟩
  | counting =>
    cases here
    obtain ⟨tr₁, counted, after⟩ := (revises_onTasks r.call.task TaskInfo.isActive
      (.bump r.counter) Option.isSome).of_some found
    have whole : (Except.ok l', tr') = (Except.ok _, tr₁) :=
      run.symm.trans (Action.bind_of_ok counted)
    cases whole
    refine ⟨_, after, ?_⟩
    rw [Option.filter_some, Amendment.when]
    by_cases active : t.isActive = true
    · simp only [if_pos active]
      exact .accept r active
    · simp only [if_neg active]
      exact .refuse r (Bool.eq_false_iff.2 active)
  | settling =>
    cases here
    obtain ⟨tr₁, settled, after⟩ := (revises_evaluate r.call.now r.call.task).of_some found
    have whole : (Except.ok l', tr') = (Except.ok _, tr₁) :=
      run.symm.trans (Action.bind_of_ok settled)
    cases whole
    refine ⟨_, after, ?_⟩
    rw [Option.filter_some, TaskInfo.settled]
    by_cases due : t.isDue = true
    · simp only [if_pos due]
      exact .complete r due
    · simp only [if_neg due]
      exact .wait r (Bool.eq_false_iff.2 due)
  | returned => cases here

end Reporting

/-! ## What holds at any time -/

open Reporting

/-- What holds until the task is done: no report was refused or told of an end, and if all expected
records are counted, then a report has yet to look. -/
structure Open (members : List Reporting) (t : TaskInfo) : Prop where
  running : t.state = .processing
  accepted : ∀ l ∈ members, l.isRefused = false
  silent : members.filterMap answered = []
  watched : t.finished < t.expected ∨ ∃ l ∈ members, l.phase = .settling

/-- What holds once the task is done: one report has said so. -/
structure Closed (members : List Reporting) (t : TaskInfo) : Prop where
  done : t.state = t.verdict
  through : t.expected ≤ t.finished
  once : members.filterMap answered = [t.verdict]

/-- What holds of reports and of the record of their task, which is `t₀` in the beginning. -/
structure Tally (reports : List Report) (t₀ : TaskInfo) (members : List Reporting)
    (t : TaskInfo) : Prop where
  same : members.map Reporting.report = reports
  expected : t.expected = t₀.expected
  fatal : t.fatal = t₀.fatal
  counts : ∀ k, t.count k = members.countP (isCounted k)
  stage : Open members t ∨ Closed members t

section

variable {reports : List Report} {t₀ t u : TaskInfo} {before after members : List Reporting}
  {l l' : Reporting}

/-- An accepted report is counted as one of its kind and as none of the others. -/
theorem Reporting.kind_of_isAccepted (l : Reporting) :
    (if l.isAccepted then 1 else 0)
      = (if l.isCounted .processed then 1 else 0) + (if l.isCounted .errors then 1 else 0)
        + (if l.isCounted .deleted then 1 else 0)
        + if l.isCounted .postProcessed then 1 else 0 := by
  simp only [isCounted]
  by_cases accepted : l.isAccepted = true
  · simp only [accepted, Bool.true_and, decide_eq_true_eq, if_true]
    cases l.report.counter <;> rfl
  · simp [accepted]

theorem Reporting.isAccepted_of_isOver {l : Reporting} (ended : l.isOver = true)
    (plain : l.isRefused = false) : l.isAccepted = true := by
  obtain ⟨r, phase⟩ := l
  cases phase with
  | returned accepted answer =>
    cases accepted with
    | true => rfl
    | false => cases plain
  | _ => cases ended

theorem Open.of_active (stage : Open members t ∨ Closed members t) (active : t.isActive = true) :
    Open members t := by
  rcases stage with op | closed
  · exact op
  · rw [TaskInfo.isActive, closed.done, TaskInfo.verdict_isTerminal] at active
    cases active

theorem Closed.of_not_active (stage : Open members t ∨ Closed members t)
    (done : t.isActive = false) : Closed members t := by
  rcases stage with op | closed
  · rw [TaskInfo.isActive_of_processing op.running] at done
    cases done
  · exact closed

/-- **Every step of a report keeps the tally.** -/
theorem Tally.turn (h : Tally reports t₀ (before ++ l :: after) t) (known : 0 ≤ t₀.expected)
    (turn : Turn t l l' u) : Tally reports t₀ (before ++ l' :: after) u where
  same := by
    rw [← h.same, List.map_append, List.map_append, List.map_cons, List.map_cons, turn.report_eq]
  expected := turn.expected_eq.trans h.expected
  fatal := turn.fatal_eq.trans h.fatal
  counts k := by
    have before_turn := h.counts k
    have counted := turn.count_eq k
    have members := Crew.countP_splice before after l l' (isCounted k)
    omega
  stage := by
    cases turn with
    | announce r n =>
      refine h.stage.imp (fun op => ⟨op.running, ?_, ?_, ?_⟩)
        fun closed => ⟨closed.done, closed.through, ?_⟩
      · exact Crew.forall_mem_splice op.accepted rfl
      · exact Crew.filterMap_splice op.silent rfl
      · refine op.watched.imp_right fun settling => Crew.exists_mem_splice settling ?_
        exact nofun
      · exact Crew.filterMap_splice closed.once rfl
    | accept r active =>
      have op := Open.of_active h.stage active
      refine .inl ⟨?_, ?_, ?_, .inr ⟨⟨r, .settling⟩, by simp, rfl⟩⟩
      · rw [TaskInfo.state_bump, op.running]
      · exact Crew.forall_mem_splice op.accepted rfl
      · exact Crew.filterMap_splice op.silent rfl
    | refuse r done =>
      have closed := Closed.of_not_active h.stage done
      exact .inr ⟨closed.done, closed.through, Crew.filterMap_splice closed.once rfl⟩
    | wait r idle =>
      refine h.stage.imp (fun op => ⟨op.running, ?_, ?_, .inl ?_⟩)
        fun closed => ⟨closed.done, closed.through, ?_⟩
      · exact Crew.forall_mem_splice op.accepted rfl
      · exact Crew.filterMap_splice op.silent rfl
      · -- The report has looked and found the task not to be due.
        by_contra through
        have due := TaskInfo.isDue_iff.2 ⟨op.running, h.expected ▸ known, Int.not_lt.1 through⟩
        rw [due] at idle
        cases idle
      · exact Crew.filterMap_splice closed.once rfl
    | complete r due =>
      obtain ⟨running, -, through⟩ := TaskInfo.isDue_iff.1 due
      have op := Open.of_active h.stage (TaskInfo.isActive_of_isDue due)
      refine .inr ⟨rfl, through, ?_⟩
      have silent := op.silent
      rw [List.filterMap_append, List.filterMap_cons] at silent ⊢
      obtain ⟨none_before, none_after⟩ := List.append_eq_nil_iff.1 silent
      rw [none_before]
      show t.verdict :: after.filterMap answered = [t.verdict]
      rw [show after.filterMap answered = [] from none_after]

/-- The records that have come to an end are those of the accepted reports. -/
theorem Tally.finished_eq (h : Tally reports t₀ members t) :
    t.finished = members.countP isAccepted := by
  have kinds : ∀ ls : List Reporting, ls.countP isAccepted
      = ls.countP (isCounted .processed) + ls.countP (isCounted .errors)
        + ls.countP (isCounted .deleted) + ls.countP (isCounted .postProcessed) := by
    intro ls
    induction ls with
    | nil => rfl
    | cons l rest ih =>
      have one := l.kind_of_isAccepted
      simp only [List.countP_cons, ih]
      omega
  have counts := h.counts
  rw [kinds, TaskInfo.finished]
  push_cast
  rw [← counts, ← counts, ← counts, ← counts]
  rfl

/-- **Whatever the order of the steps**, the tally is kept. -/
theorem Tally.run {c : Crew MemoryTracker Reporting} {tr : MemoryTracker} {id : TaskId}
    (about : ∀ r ∈ reports, r.call.task = id) (known : 0 ≤ t₀.expected)
    (h : Tally reports t₀ members t) (found : tr.progress id = some t)
    (run : Crew.Run next ⟨members, tr⟩ c) :
    ∃ u, c.shared.progress id = some u ∧ Tally reports t₀ c.members u := by
  refine run.keeps (P := fun c => ∃ u, c.shared.progress id = some u ∧
    Tally reports t₀ c.members u) ⟨t, found, h⟩ ?_
  rintro _ _ ⟨t, found, tally⟩ (⟨here, run⟩ : Crew.Step next _ _)
  rename_i before after l l' s s' act
  have own : l.report.call.task = id :=
    about _ (tally.same ▸ List.mem_map_of_mem (List.mem_append_right _ List.mem_cons_self))
  obtain ⟨u, found', turn⟩ := turn_of_next here run (own ▸ found)
  exact ⟨u, own ▸ found', tally.turn known turn⟩

/-- Reports that have not begun leave the task as it is. -/
theorem Tally.begun (running : t.state = .processing) (positive : 1 ≤ t.expected)
    (fresh : ∀ k, t.count k = 0) : Tally reports t (reports.map Report.begun) t := by
  have idle : ∀ r : Report, r.begun.isAccepted = false ∧ r.begun.isRefused = false ∧
      r.begun.answered = none := by
    intro r
    simp only [Report.begun, isAccepted, isRefused, answered]
    cases r.call.announced <;> exact ⟨rfl, rfl, rfl⟩
  have finished : t.finished = 0 := by
    have sum : t.finished = t.count .processed + t.count .errors + t.count .deleted
      + t.count .postProcessed := rfl
    rw [sum, fresh, fresh, fresh, fresh]
    rfl
  refine ⟨?_, rfl, rfl, fun k => ?_, .inl ⟨running, ?_, ?_, .inl ?_⟩⟩
  · rw [List.map_map]
    exact List.map_id _
  · have none_counted : (reports.map Report.begun).countP (isCounted k) = 0 := by
      rw [List.countP_map, List.countP_eq_zero]
      intro r _ counted
      rw [Function.comp_apply, isCounted, (idle r).1] at counted
      cases counted
    rw [fresh, none_counted]
    rfl
  · intro l mem
    obtain ⟨r, -, rfl⟩ := List.mem_map.1 mem
    exact (idle r).2.1
  · rw [List.filterMap_map, List.filterMap_eq_nil_iff]
    exact fun r _ => (idle r).2.2
  · rw [finished]
    omega

end

/-! ## When all reports have returned -/

/-- **Reports at the same time lose nothing and complete the task once.**  What a report does in
steps is what the call of the tracker does if the others wait meanwhile.  But whatever the order of
their steps, as long as a report has not returned, one can go on; and when at least as many reports
as records are expected have all returned, the task is done, one report has said so, and the counts
are those of the accepted reports.  No report is refused if there are no more than expected. -/
theorem reports_complete_once {reports : List Report} {id : TaskId} {tr : MemoryTracker}
    {t : TaskInfo} (found : tr.progress id = some t) (running : t.state = .processing)
    (positive : 1 ≤ t.expected) (fresh : ∀ k, t.count k = 0)
    (about : ∀ r ∈ reports, r.call.task = id) (enough : t.expected ≤ reports.length) :
    (∀ (r : Report) (tr : MemoryTracker) (before after : List Reporting),
      ∃ accepted answer tr', r.call.run tr = (.ok (.ended answer), tr') ∧
        Crew.Run Reporting.next ⟨before ++ r.begun :: after, tr⟩
          ⟨before ++ ⟨r, .returned accepted answer⟩ :: after, tr'⟩) ∧
    ∀ c : Crew MemoryTracker Reporting,
      Crew.Run Reporting.next ⟨reports.map Report.begun, tr⟩ c →
      ((∃ l ∈ c.members, l.isOver = false) → ∃ c', Crew.Step Reporting.next c c') ∧
      ((∀ l ∈ c.members, l.isOver = true) →
        ∃ u, c.shared.progress id = some u ∧
          u.state = (if t.fatal.isSome then .failed else .processed) ∧
          c.members.map Reporting.report = reports ∧
          c.members.filterMap Reporting.answered = [u.state] ∧
          t.expected ≤ u.finished ∧ u.finished ≤ reports.length ∧
          (∀ k, u.count k = c.members.countP (Reporting.isCounted k)) ∧
          (t.expected = reports.length → ∀ l ∈ c.members, l.isAccepted = true)) := by
  refine ⟨fun r tr before after => ?_, fun c run =>
    ⟨fun ⟨l, mem, busy⟩ => exists_step mem busy, fun ended => ?_⟩⟩
  · obtain ⟨accepted, answer, tr', whole, alone⟩ := run_alone r tr
    exact ⟨accepted, answer, tr', whole, alone.among before after⟩
  obtain ⟨u, found', tally⟩ := Tally.run about (by omega) (.begun running positive fresh) found run
  have size : c.members.length = reports.length := by rw [← tally.same, List.length_map]
  have accepted_le : c.members.countP isAccepted ≤ c.members.length := List.countP_le_length
  have closed : Closed c.members u := by
    rcases tally.stage with op | closed
    · -- Nobody has yet to look, so not all expected records are counted; yet all were accepted.
      have all : c.members.countP isAccepted = c.members.length :=
        List.countP_eq_length.2 fun l mem => isAccepted_of_isOver (ended l mem) (op.accepted l mem)
      have finished := tally.finished_eq
      rcases op.watched with few | ⟨l, mem, settling⟩
      · rw [tally.expected] at few
        omega
      · have returned := ended l mem
        rw [isOver, settling] at returned
        cases returned
    · exact closed
  have verdict : u.state = (if t.fatal.isSome then .failed else .processed) := by
    rw [closed.done, TaskInfo.verdict, tally.fatal]
  have finished := tally.finished_eq
  have through := closed.through
  rw [tally.expected] at through
  refine ⟨u, found', verdict, tally.same, closed.done ▸ closed.once, through, by omega,
    tally.counts, fun exact_number => ?_⟩
  have all : c.members.countP isAccepted = c.members.length := by omega
  exact List.countP_eq_length.1 all

/-- A task in progress of which two records are expected, with a reason to fail. -/
def busyTask : TaskInfo :=
  { TaskInfo.new .epoch ⟨7⟩ "harvest" 2 none with state := .processing, fatal := some "no space" }

def busyTracker : MemoryTracker := ⟨MemoryTasks.empty.put busyTask, MemoryNotifications.empty⟩

/-- One report more than there are records expected. -/
def racingReports : List Report :=
  [⟨.failed .epoch ⟨⟨7⟩, "a", "unreadable", ""⟩, .errors, rfl⟩,
    ⟨.processed .epoch ⟨7⟩, .processed, rfl⟩, ⟨.deleted .epoch ⟨7⟩ "b", .deleted, rfl⟩]

/-- Two of the reports are counted before either looks whether the task is complete, and the third
comes to be counted only after that. -/
def racingCrew : Crew MemoryTracker Reporting :=
  Crew.follow Reporting.next [0, 1, 0, 2, 0, 2, 1] ⟨racingReports.map Report.begun, busyTracker⟩

theorem racingReports_complete_once :
    ∃ u, racingCrew.shared.progress ⟨7⟩ = some u ∧ u.state = .failed ∧
      racingCrew.members.filterMap Reporting.answered = [u.state] ∧
      2 ≤ u.finished ∧ u.finished ≤ 3 := by
  have found : busyTracker.progress ⟨7⟩ = some busyTask := rfl
  have about : ∀ r ∈ racingReports, r.call.task = ⟨7⟩ := by decide
  have run : Crew.Run Reporting.next ⟨racingReports.map Report.begun, busyTracker⟩ racingCrew :=
    Crew.run_follow _ _
  have ended : ∀ l ∈ racingCrew.members, l.isOver = true := by decide +kernel
  obtain ⟨-, races⟩ :=
    reports_complete_once found rfl (by decide) (fun k => by cases k <;> rfl) about (by decide)
  obtain ⟨u, found', state, -, once, through, most, -, -⟩ := (races racingCrew run).2 ended
  exact ⟨u, found', state, once, through, most⟩

end Tracker

end Conveyor
