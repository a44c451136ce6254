import Conveyor.Tracker.Basic
import Conveyor.Tracker.Memory

/-!
# Calls of a tracker in memory

Every call of the tracker but a registration does one of four things to the record of one task: it
counts a record, sets the expected number, notes a reason to fail, or moves the task between
states.  All but the last then look whether the task is complete.  So a call is described by what
it makes of one record and what it answers of that record; all other records stay.

* `Change` — the four things; `Change.own` is what a call itself does to the record, and
  `Change.revise` what is left once completion was looked at.
* `Call` — the calls; `Call.after` and `Call.answer` say what becomes of the record and what is
  answered.
* **`progress_run`**, **`run_fst`** — a call of the tracker does just that.
* `Tracker.after` — the tracker after a history of calls, the latest first.
-/

namespace Conveyor

/-- A tracker whose stores are in memory. -/
abbrev MemoryTracker : Type := Tracker MemoryTasks MemoryNotifications

/-- The first moment of 1970. -/
def Timestamp.epoch : Timestamp := ⟨⟨1970, 1, 1, by decide⟩, 0, 0, 0, 0, by decide⟩

namespace TaskInfo

/-- The record once it was looked at whether the task is complete. -/
def settled (now : Timestamp) (t : TaskInfo) : TaskInfo :=
  if t.isDue then t.completed now else t

theorem isDue_iff {t : TaskInfo} :
    t.isDue = true ↔ t.state = .processing ∧ 0 ≤ t.expected ∧ t.expected ≤ t.finished := by
  simp [isDue, isAccounted]

theorem isActive_of_processing {t : TaskInfo} (h : t.state = .processing) : t.isActive = true := by
  simp [isActive, h, TaskState.isTerminal]

/-- A task that is not done waits or is in progress. -/
theorem processing_of_isActive {t : TaskInfo} (h : t.isActive = true) (begun : t.state ≠ .pending) :
    t.state = .processing := by
  rw [isActive] at h
  cases state : t.state with
  | pending => exact absurd state begun
  | processing => rfl
  | _ =>
    rw [state] at h
    cases h

theorem isActive_of_isDue {t : TaskInfo} (h : t.isDue = true) : t.isActive = true :=
  isActive_of_processing (isDue_iff.1 h).1

theorem isDue_eq_false {t : TaskInfo} (h : ¬ t.isActive = true) : t.isDue = false :=
  Bool.eq_false_iff.2 fun due => h (isActive_of_isDue due)

end TaskInfo

namespace Tracker

def empty : MemoryTracker := ⟨MemoryTasks.empty, MemoryNotifications.empty⟩

/-- The record of a task. -/
def progress (tr : MemoryTracker) (id : TaskId) : Option TaskInfo := tr.tasks.find? id

/-! ## Changes of one record -/

/-- What a call answers. -/
inductive Answer where
  | done
  /-- Whether the task was moved. -/
  | moved (yes : Bool)
  /-- The state in which the call completed the task, if it did. -/
  | ended (state : Option TaskState)
deriving DecidableEq

/-- What a call does to the record of its task. -/
inductive Change where
  /-- A record of the task has come to an end. -/
  | count (counter : Counter)
  | expect (n : Int)
  /-- There is a reason for which the task cannot succeed. -/
  | warn (reason : String)
  | move (sources : List TaskState) (target : TaskState) (description : String)

namespace Change

/-- The amendment of the record that the call itself makes. -/
def amendment (now : Timestamp) : Change → Amendment
  | count counter => (Amendment.bump counter).when TaskInfo.isActive
  | expect n => Amendment.expect n
  | warn reason => (Amendment.warn reason).when TaskInfo.isActive
  | move sources target description =>
      (Amendment.move now target description).when (·.state ∈ sources)

/-- The record after what the call itself does to it. -/
def own (change : Change) (now : Timestamp) (t : TaskInfo) : TaskInfo :=
  (change.amendment now).apply t

/-- Whether the call then looks if the task is complete. -/
def checks : Change → Bool
  | move .. => false
  | _ => true

/-- The state in which the call completes the task, if it does. -/
def verdict (change : Change) (now : Timestamp) (before : Option TaskInfo) : Option TaskState :=
  ((before.map (change.own now)).filter TaskInfo.isDue).map TaskInfo.verdict

/-- The record after the call. -/
def revise (change : Change) (now : Timestamp) (t : TaskInfo) : TaskInfo :=
  if change.checks then (change.own now t).settled now else change.own now t

/-- What the call answers, going by the record before it. -/
def answer (change : Change) (now : Timestamp) (before : Option TaskInfo) : Answer :=
  match change with
  | expect _ => .done
  | move sources _ _ => .moved (before.any (·.state ∈ sources))
  | _ => .ended (change.verdict now before)

end Change

/-! ## Calls -/

/-- A call of the tracker, with the time of day at which it is made. -/
inductive Call where
  /-- The registration of a fresh record. -/
  | register (now : Timestamp) (id : TaskId) (topology : String) (expected : Int)
      (owner : Option String) (replace : Bool)
  | start (now : Timestamp) (id : TaskId)
  | setExpected (now : Timestamp) (id : TaskId) (n : Int)
  | processed (now : Timestamp) (id : TaskId)
  | failed (now : Timestamp) (e : RecordError)
  | deleted (now : Timestamp) (id : TaskId) (resource : String)
  | postProcessed (now : Timestamp) (id : TaskId)
  | fatal (now : Timestamp) (id : TaskId) (reason : String)
  | dropTask (now : Timestamp) (id : TaskId) (reason : String)
  | failTask (now : Timestamp) (id : TaskId) (reason : String)

namespace Call

def task : Call → TaskId
  | register _ id .. | start _ id | setExpected _ id _ | processed _ id | deleted _ id _
  | postProcessed _ id | fatal _ id _ | dropTask _ id _ | failTask _ id _ => id
  | failed _ e => e.taskId

def now : Call → Timestamp
  | register now .. | start now _ | setExpected now .. | processed now _ | failed now _
  | deleted now .. | postProcessed now _ | fatal now .. | dropTask now .. | failTask now .. => now

/-- What a call does to the record of its task, if it is not a registration. -/
def change? : Call → Option Change
  | register .. => none
  | start .. => some (.move [.pending] .processing "The task is in progress")
  | setExpected _ _ n => some (.expect n)
  | processed .. => some (.count .processed)
  | failed .. => some (.count .errors)
  | deleted .. => some (.count .deleted)
  | postProcessed .. => some (.count .postProcessed)
  | fatal _ _ reason => some (.warn reason)
  | dropTask _ _ reason => some (.move TaskState.active .dropped reason)
  | failTask _ _ reason => some (.move TaskState.active .failed reason)

/-- What a call announces about a record. -/
def announced : Call → List Notification
  | failed now e => [.ofError now e]
  | deleted now id resource => [.ofDeleted now id resource]
  | _ => []

def run : Call → Action MemoryTracker StoreError Answer
  | register now id topology expected owner replace => do
      Tracker.register (TaskInfo.new now id topology expected owner) replace
      pure .done
  | start now id => .moved <$> Tracker.start now id
  | setExpected now id n => do
      Tracker.setExpected now id n
      pure .done
  | processed now id => .ended <$> Tracker.processed now id
  | failed now e => .ended <$> Tracker.failed now e
  | deleted now id resource => .ended <$> Tracker.deleted now id resource
  | postProcessed now id => .ended <$> Tracker.postProcessed now id
  | fatal now id reason => .ended <$> Tracker.fatal now id reason
  | dropTask now id reason => .moved <$> Tracker.dropTask now id reason
  | failTask now id reason => .moved <$> Tracker.failTask now id reason

/-- The fresh record that a registration brings. -/
def fresh? : Call → Option TaskInfo
  | register now id topology expected owner _ => some (.new now id topology expected owner)
  | _ => none

/-- Whether a call is a registration that replaces a record under its number. -/
def replaces : Call → Bool
  | register _ _ _ _ _ replace => replace
  | _ => false

/-- The record of its task after a call. -/
def after (c : Call) (before : Option TaskInfo) : Option TaskInfo :=
  match c.change? with
  | some change => before.map (change.revise c.now)
  | none => if c.replaces then c.fresh? else before <|> c.fresh?

/-- What a call answers, going by the record of its task before it. -/
def answer (c : Call) (before : Option TaskInfo) : Except StoreError Answer :=
  match c.change? with
  | some change => .ok (change.answer c.now before)
  | none => if c.replaces || before.isNone then .ok .done else .error (takenError c.task)

end Call

/-! ## Actions that revise one record -/

/-- An action *revises* the record of a task: it never fails, makes `f` of the record, leaves all
other records, announces something, and answers what `answer` says of the record before. -/
def Revises {α : Type} (x : Action MemoryTracker StoreError α) (id : TaskId)
    (f : TaskInfo → TaskInfo) (announced : List Notification)
    (answer : Option TaskInfo → α) : Prop :=
  ∀ tr, ∃ tasks,
    x tr = (.ok (answer (tr.progress id)), ⟨tasks, ⟨tr.notices.entries ++ announced⟩⟩) ∧
    ∀ other, tasks.find? other
      = if id = other then (tr.progress id).map f else tr.progress other

section

variable {α β : Type} {x : Action MemoryTracker StoreError α} {id : TaskId}
  {f g : TaskInfo → TaskInfo} {ns ms : List Notification} {a : Option TaskInfo → α}

theorem Revises.congr {b : Option TaskInfo → α} (h : Revises x id f ns a) (hf : ∀ t, f t = g t)
    (ha : ∀ o, a o = b o) : Revises x id g ns b := by
  obtain rfl : f = g := funext hf
  obtain rfl : a = b := funext ha
  exact h

/-- One revision after another, the second of which may go by the answer of the first. -/
theorem Revises.bind {k : α → Action MemoryTracker StoreError β}
    {h : Option TaskInfo → TaskInfo → TaskInfo} {b : Option TaskInfo → Option TaskInfo → β}
    (hx : Revises x id f ns a) (hk : ∀ o, Revises (k (a o)) id (h o) ms (b o)) :
    Revises (x >>= k) id (fun t => h (some t) (f t)) (ns ++ ms) (fun o => b o (o.map f)) := by
  intro tr
  obtain ⟨tasks, run, found⟩ := hx tr
  obtain ⟨tasks', run', found'⟩ := hk (tr.progress id) ⟨tasks, ⟨tr.notices.entries ++ ns⟩⟩
  have here : tasks.find? id = (tr.progress id).map f := by rw [found, if_pos rfl]
  refine ⟨tasks', ?_, fun other => ?_⟩
  · rw [Action.bind_of_ok run, run']
    simp only [progress, here, List.append_assoc]
  · rw [found' other]
    by_cases same : id = other
    · subst same
      simp only [progress, if_true, here]
      cases tr.tasks.find? id <;> rfl
    · simp only [progress, same, if_false]
      rw [found other, if_neg same]
      rfl

theorem Revises.andThen {y : Action MemoryTracker StoreError β} {b : Option TaskInfo → β}
    (hx : Revises x id f ns a) (hy : Revises y id g ms b) :
    Revises (x >>= fun _ => y) id (fun t => g (f t)) (ns ++ ms) (fun o => b (o.map f)) :=
  hx.bind (k := fun _ => y) (h := fun _ => g) (b := fun _ => b) fun _ => hy

theorem Revises.map (k : α → β) (hx : Revises x id f ns a) :
    Revises (k <$> x) id f ns (fun o => k (a o)) := by
  intro tr
  obtain ⟨tasks, run, found⟩ := hx tr
  exact ⟨tasks, by rw [map_eq_pure_bind, Action.bind_of_ok run]; rfl, found⟩

theorem revises_pure (v : α) (id : TaskId) :
    Revises (pure v) id (fun t => t) [] (fun _ => v) := by
  intro tr
  refine ⟨tr.tasks, by simp, fun other => ?_⟩
  by_cases same : id = other
  · subst same
    simp [progress]
  · simp [progress, same]

theorem revises_onTasks (id : TaskId) (condition : TaskInfo → Bool) (amendment : Amendment)
    (answer : Option TaskInfo → α) :
    Revises (onTasks (MemoryTasks.revising id condition amendment answer)) id
      (amendment.when condition).apply [] (fun o => answer (o.filter condition)) := by
  intro tr
  refine ⟨tr.tasks.amend id (amendment.when condition), ?_, fun other => ?_⟩
  · simp [onTasks, MemoryTasks.revising, tasksPart, progress]
  · exact MemoryTasks.find?_amend id other _ tr.tasks

theorem Revises.announce (n : Notification) (hx : Revises x id f [] a) :
    Revises (onNotices (NotificationSink.notify n) >>= fun _ => x) id f [n] a := by
  have notify : Revises (onNotices (NotificationSink.notify n)) id (fun t => t) [n]
      (fun _ => ()) := by
    intro tr
    refine ⟨tr.tasks, rfl, fun other => ?_⟩
    by_cases same : id = other
    · subst same
      simp [progress]
    · simp [progress, same]
  refine (notify.andThen hx).congr (fun _ => rfl) (fun o => ?_)
  rw [Option.map_id']

end

/-! ## What the operations revise -/

theorem revises_evaluate (now : Timestamp) (id : TaskId) :
    Revises (evaluate now id) id (TaskInfo.settled now) []
      (fun o => (o.filter TaskInfo.isDue).map TaskInfo.verdict) :=
  revises_onTasks id TaskInfo.isDue (.complete now) (Option.map TaskInfo.verdict)

theorem revises_bump (now : Timestamp) (id : TaskId) (counter : Counter) :
    Revises (bump now id counter) id ((Change.count counter).revise now) []
      ((Change.count counter).verdict now) := by
  -- completion is looked at only if the count was accepted, that is, if the task is active
  have step : ∀ o : Option TaskInfo,
      Revises (if (o.filter TaskInfo.isActive).isSome then evaluate now id else pure none) id
        (if (o.filter TaskInfo.isActive).isSome then TaskInfo.settled now else fun t => t) []
        (if (o.filter TaskInfo.isActive).isSome then
          fun u => (u.filter TaskInfo.isDue).map TaskInfo.verdict else fun _ => none) := by
    intro o
    split
    · exact revises_evaluate now id
    · exact revises_pure none id
  refine ((revises_onTasks id TaskInfo.isActive (.bump counter) Option.isSome).bind step).congr
    (fun t => ?_) (fun o => ?_)
  · by_cases active : t.isActive = true
    · simp [active, Change.revise, Change.checks, Change.own, Change.amendment]
    · have idle := TaskInfo.isDue_eq_false active
      simp [active, idle, Change.revise, Change.checks, Change.own, Change.amendment,
        Amendment.when, TaskInfo.settled]
  · cases o with
    | none => rfl
    | some t =>
      by_cases active : t.isActive = true
      · simp [active, Change.verdict, Change.own, Change.amendment]
      · have idle := TaskInfo.isDue_eq_false active
        simp [active, idle, Change.verdict, Change.own, Change.amendment, Amendment.when,
          Option.filter_some]

theorem revises_setExpected (now : Timestamp) (id : TaskId) (n : Int) :
    Revises (setExpected now id n) id ((Change.expect n).revise now) [] (fun _ => ()) := by
  have set := revises_onTasks id (fun _ => true) (.expect n) fun _ : Option TaskInfo => ()
  have look := (revises_evaluate now id).map fun _ => ()
  refine (set.andThen look).congr (fun t => ?_) (fun _ => rfl)
  simp [Change.revise, Change.checks, Change.own, Change.amendment, Amendment.when]

theorem revises_fatal (now : Timestamp) (id : TaskId) (reason : String) :
    Revises (fatal now id reason) id ((Change.warn reason).revise now) []
      ((Change.warn reason).verdict now) :=
  (revises_onTasks id TaskInfo.isActive (.warn reason) fun _ => ()).andThen
    (revises_evaluate now id)

theorem revises_transition (now : Timestamp) (id : TaskId) (sources : List TaskState)
    (target : TaskState) (description : String) :
    Revises (onTasks (TaskStore.transition now id sources target description)) id
      ((Change.move sources target description).revise now) []
      (fun o => o.any (·.state ∈ sources)) := by
  refine (revises_onTasks id (·.state ∈ sources) (.move now target description)
    Option.isSome).congr (fun t => rfl) (fun o => ?_)
  cases o with
  | none => rfl
  | some t => by_cases h : t.state ∈ sources <;> simp [h]

/-- **A registration** puts a record where there is none or an old one may be replaced, and is
refused otherwise. -/
theorem register_apply (t : TaskInfo) (replace : Bool) (tr : MemoryTracker) :
    Tracker.register t replace tr
      = if replace || (tr.progress t.id).isNone then
          (.ok (), { tr with tasks := tr.tasks.put t })
        else (.error (takenError t.id), tr) := by
  cases replace with
  | true => rfl
  | false =>
    show ((MemoryTasks.insert t tr.tasks).1, { tr with tasks := (MemoryTasks.insert t tr.tasks).2 })
      = _
    cases h : tr.tasks.find? t.id with
    | none => simp [MemoryTasks.insert, Tracker.progress, h]
    | some u => simp [MemoryTasks.insert, Tracker.progress, h]

/-! ## What the calls do -/

namespace Call

variable {c : Call} {change : Change} {tr : MemoryTracker}

/-- **A call that is no registration** revises the record of its task as its change says. -/
theorem revises_run (h : c.change? = some change) :
    Revises c.run c.task (change.revise c.now) c.announced (change.answer c.now) := by
  cases c with
  | register => cases h
  | start now id => cases h; exact (revises_transition now id _ _ _).map _
  | setExpected now id n => cases h; exact (revises_setExpected now id n).map fun _ => Answer.done
  | processed now id => cases h; exact (revises_bump now id _).map _
  | failed now e =>
    cases h
    exact ((revises_bump now e.taskId .errors).announce _).map Answer.ended
  | deleted now id resource =>
    cases h
    exact ((revises_bump now id .deleted).announce _).map Answer.ended
  | postProcessed now id => cases h; exact (revises_bump now id _).map _
  | fatal now id reason => cases h; exact (revises_fatal now id reason).map _
  | dropTask now id reason => cases h; exact (revises_transition now id _ _ _).map _
  | failTask now id reason => cases h; exact (revises_transition now id _ _ _).map _

theorem run_register (now : Timestamp) (id : TaskId) (topology : String) (expected : Int)
    (owner : Option String) (replace : Bool) (tr : MemoryTracker) :
    (register now id topology expected owner replace).run tr
      = if replace || (tr.progress id).isNone then
          (.ok .done, { tr with tasks := tr.tasks.put (.new now id topology expected owner) })
        else (.error (takenError id), tr) := by
  have registered := register_apply (.new now id topology expected owner) replace tr
  have number : (TaskInfo.new now id topology expected owner).id = id := rfl
  rw [number] at registered
  rw [run, Action.bind_apply, registered]
  by_cases free : (replace || (tr.progress id).isNone) = true
  · rw [if_pos free, if_pos free]
    rfl
  · rw [if_neg free, if_neg free]

theorem after_register (now : Timestamp) (id : TaskId) (topology : String) (expected : Int)
    (owner : Option String) (replace : Bool) (before : Option TaskInfo) :
    (register now id topology expected owner replace).after before
      = if replace || before.isNone then some (.new now id topology expected owner)
        else before := by
  cases replace <;> cases before <;> rfl

theorem change?_eq_none (h : c.change? = none) :
    ∃ now id topology expected owner replace,
      c = register now id topology expected owner replace := by
  cases c with
  | register now id topology expected owner replace => exact ⟨_, _, _, _, _, _, rfl⟩
  | _ => cases h

theorem fresh?_eq_some {u : TaskInfo} (h : c.fresh? = some u) :
    ∃ now id topology expected owner, u = TaskInfo.new now id topology expected owner := by
  cases c with
  | register now id topology expected owner replace =>
    exact ⟨_, _, _, _, _, (Option.some.inj h).symm⟩
  | _ => cases h

/-- **The records after a call**: that of its task as the call says, and all others as before. -/
theorem progress_run (c : Call) (tr : MemoryTracker) (id : TaskId) :
    (c.run tr).2.progress id
      = if c.task = id then c.after (tr.progress id) else tr.progress id := by
  cases h : c.change? with
  | some change =>
    obtain ⟨tasks, run, found⟩ := revises_run h tr
    have := found id
    rw [run]
    simp only [progress, after, h] at this ⊢
    rw [this]
    by_cases same : c.task = id
    · subst same
      rfl
    · simp [same]
  | none =>
    obtain ⟨now, task, topology, expected, owner, replace, rfl⟩ := change?_eq_none h
    have about : (register now task topology expected owner replace).task = task := rfl
    rw [run_register, about, after_register]
    by_cases same : task = id
    · subst same
      by_cases accepted : (replace || (tr.progress task).isNone) = true
      · rw [if_pos accepted, if_pos rfl, if_pos accepted]
        exact (MemoryTasks.find?_put _ tr.tasks task).trans (if_pos rfl)
      · rw [if_neg accepted, if_pos rfl, if_neg accepted]
    · rw [if_neg same]
      split
      · exact (MemoryTasks.find?_put _ tr.tasks id).trans (if_neg same)
      · rfl

/-- **The answer of a call** goes by the record of its task. -/
theorem run_fst (c : Call) (tr : MemoryTracker) :
    (c.run tr).1 = c.answer (tr.progress c.task) := by
  cases h : c.change? with
  | some change =>
    obtain ⟨tasks, run, found⟩ := revises_run h tr
    rw [run]
    simp [answer, h]
  | none =>
    obtain ⟨now, task, topology, expected, owner, replace, rfl⟩ := change?_eq_none h
    rw [run_register]
    by_cases accepted : replace || (tr.progress task).isNone
    · simp [answer, change?, replaces, Call.task, accepted]
    · simp [answer, change?, replaces, Call.task, accepted]

/-- **The announcements after a call** are those from before and its own. -/
theorem entries_run (c : Call) (tr : MemoryTracker) :
    (c.run tr).2.notices.entries = tr.notices.entries ++ c.announced := by
  cases h : c.change? with
  | some change =>
    obtain ⟨tasks, run, -⟩ := revises_run h tr
    rw [run]
  | none =>
    obtain ⟨now, task, topology, expected, owner, replace, rfl⟩ := change?_eq_none h
    rw [run_register]
    split <;> simp [announced]

/-- An action that is a call but for the form of its answer succeeds where the call does. -/
theorem run_of_map {α : Type} {x : Action MemoryTracker StoreError α} {form : α → Answer}
    (same : c.run = form <$> x) (h : c.change? = some change) (tr : MemoryTracker) :
    ∃ a, x tr = (.ok a, (c.run tr).2) := by
  obtain ⟨tasks, run, -⟩ := revises_run h tr
  rw [same, map_eq_pure_bind, Action.bind_apply] at run ⊢
  cases ran : x tr with
  | mk answer after =>
    rw [ran] at run
    cases answer with
    | ok a => exact ⟨a, rfl⟩
    | error e => cases run

end Call

theorem setExpected_apply (now : Timestamp) (id : TaskId) (n : Int) (tr : MemoryTracker) :
    Tracker.setExpected now id n tr = (.ok (), ((Call.setExpected now id n).run tr).2) := by
  have form : (Call.setExpected now id n).run
      = (fun _ => Answer.done) <$> Tracker.setExpected now id n := by
    rw [map_eq_pure_bind]
    rfl
  exact (Call.run_of_map form rfl tr).choose_spec

/-! ## Histories -/

/-- The tracker after a history of calls, the latest first. -/
def afterAll : List Call → MemoryTracker
  | [] => empty
  | c :: earlier => (c.run (afterAll earlier)).2

/-- The record of a task after a history of calls. -/
def recordAfter (history : List Call) (id : TaskId) : Option TaskInfo :=
  (afterAll history).progress id

theorem recordAfter_cons (c : Call) (earlier : List Call) (id : TaskId) :
    recordAfter (c :: earlier) id
      = if c.task = id then c.after (recordAfter earlier id) else recordAfter earlier id :=
  c.progress_run _ id

/-- The record of a call's task, if there is one after the call: it is as before, or fresh, or the
revised record from before. -/
theorem recordAfter_cons_cases {c : Call} {earlier : List Call} {id : TaskId} {u : TaskInfo}
    (h : recordAfter (c :: earlier) id = some u) :
    recordAfter earlier id = some u ∨
      (c.task = id ∧ c.fresh? = some u ∧ (c.replaces = true ∨ recordAfter earlier id = none)) ∨
      ∃ change t, c.task = id ∧ c.change? = some change ∧ recordAfter earlier id = some t ∧
        u = change.revise c.now t := by
  rw [recordAfter_cons] at h
  split at h
  · rename_i same
    rw [Call.after] at h
    cases hc : c.change? with
    | some change =>
      simp only [hc, Option.map_eq_some_iff] at h
      obtain ⟨t, before, rfl⟩ := h
      exact .inr (.inr ⟨change, t, same, rfl, before, rfl⟩)
    | none =>
      simp only [hc] at h
      split at h
      · rename_i replaces
        exact .inr (.inl ⟨same, h, .inl replaces⟩)
      · cases before : recordAfter earlier id with
        | some t =>
          left
          rw [before] at h
          exact h
        | none =>
          rw [before] at h
          exact .inr (.inl ⟨same, h, .inr rfl⟩)
  · exact .inl h

theorem recordAfter_cons_of_some {c : Call} {earlier : List Call} {id : TaskId} {t : TaskInfo}
    (h : recordAfter earlier id = some t) : ∃ u, recordAfter (c :: earlier) id = some u := by
  rw [recordAfter_cons]
  split
  · rw [Call.after]
    rw [h]
    cases hc : c.change? with
    | some change => exact ⟨_, rfl⟩
    | none =>
      obtain ⟨now, task, topology, expected, owner, replace, rfl⟩ := Call.change?_eq_none hc
      cases replace <;> exact ⟨_, rfl⟩
  · exact ⟨t, h⟩

theorem recordAfter_append_of_some {earlier : List Call} {id : TaskId} {t : TaskInfo}
    (h : recordAfter earlier id = some t) (later : List Call) :
    ∃ u, recordAfter (later ++ earlier) id = some u := by
  induction later with
  | nil => exact ⟨t, h⟩
  | cons c rest ih =>
    obtain ⟨u, found⟩ := ih
    exact recordAfter_cons_of_some found

end Tracker

end Conveyor
