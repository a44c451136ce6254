import Conveyor.Proofs.Faults
import Conveyor.Proofs.Tracker.Lifecycle
import Conveyor.Proofs.Tracker.Requests

/-!
# What is counted was announced

A record that failed or was removed is announced before it is counted, in two calls of two stores.
Either may fail, and between them the task may be registered anew or the report be made again.  So
the counts and the announcements are not equal, but an announcement that was accepted is never
withdrawn, and no count is ahead of the announcements: whoever is about to count has had an
announcement accepted that nobody has counted yet.

* `TaskStore.Call.counted_on` — what one call of a task store can do to a count, and
  `counted_on_faulty` if it may fail.
* `Serving.owes` — that a request has announced an end of a record that it has yet to count.
* **`Covered.run`** — the counts, and what is yet to be counted, never exceed the announcements.
* **`failures_announced`** — what holds of the counts and of the listed notifications after requests
  one after another and at any time while requests are served at the same time.
-/

namespace Conveyor

/-- The count of the records that have come to an end that is reported. -/
def RecordState.counter : RecordState → Counter
  | error => .errors
  | deleted => .deleted

/-- Whether a notification says that a record of a task has come to an end. -/
def Notification.tells (id : TaskId) (ending : RecordState) (n : Notification) : Bool :=
  n.state = ending && n.taskId = id

/-- Nothing is counted of a new task. -/
theorem TaskInfo.count_new (now : Timestamp) (id : TaskId) (topology : String) (expected : Int)
    (owner : Option String) (k : Counter) : (new now id topology expected owner).count k = 0 := by
  cases k <;> rfl

/-! ## What calls do to a count -/

namespace MemoryTasks

variable {s : MemoryTasks} {id other : TaskId} {k : Counter} {a : Amendment}

/-- A count of a task; nothing is counted of a task that there is not. -/
def counted (id : TaskId) (k : Counter) (s : MemoryTasks) : Int :=
  ((s.find? id).map (·.count k)).getD 0

theorem counted_of_find? {t : TaskInfo} (here : s.find? id = some t) :
    s.counted id k = t.count k := by
  rw [counted, here]
  rfl

theorem counted_put (t : TaskInfo) (s : MemoryTasks) (id : TaskId) (k : Counter) :
    (s.put t).counted id k = if t.id = id then t.count k else s.counted id k := by
  rw [counted, find?_put]
  split <;> rfl

section

variable {α : Type} (s : MemoryTasks) (id other : TaskId) (condition : TaskInfo → Bool)
  (answer : Option TaskInfo → α)

/-- What a call that revises the record of a task does to a count. -/
theorem counted_revising {n : Int} (nonneg : 0 ≤ n)
    (amended : ∀ t, (a.apply t).count k = t.count k + n) :
    s.counted other k ≤ (revising id condition a answer s).2.counted other k ∧
      (revising id condition a answer s).2.counted other k
        ≤ s.counted other k + if id = other then n else 0 := by
  show _ ≤ (s.amend id (a.when condition)).counted other k ∧
    (s.amend id (a.when condition)).counted other k ≤ _
  rw [counted, counted, find?_amend]
  by_cases same : id = other
  · subst same
    rw [if_pos rfl, if_pos rfl]
    cases s.find? id with
    | none => exact ⟨Int.le_refl 0, by simpa using nonneg⟩
    | some t =>
      have here := amended t
      show t.count k ≤ (if condition t then a.apply t else t).count k ∧
        (if condition t then a.apply t else t).count k ≤ t.count k + n
      split <;> omega
  · rw [if_neg same, if_neg same]
    omega

/-- A call that revises the record of a task otherwise than in a count leaves that count. -/
theorem counted_revising_eq (kept : ∀ t, (a.apply t).count k = t.count k) :
    (revising id condition a answer s).2.counted other k = s.counted other k := by
  have bounds := counted_revising s id other condition answer (Int.le_refl 0) fun t =>
    (kept t).trans (Int.add_zero (t.count k)).symm
  rw [ite_self] at bounds
  omega

end

end MemoryTasks

namespace TaskStore.Call

/-- Whether a call raises a count of a task. -/
def raises (id : TaskId) (k : Counter) : Call → Bool
  | increment task counter => task = id && k = counter
  | _ => false

/-- The record that a call brings. -/
def brought? : Call → Option TaskInfo
  | insert t | upsert t => some t
  | _ => none

/-- **A call raises a count by one at most**, and only if it is one that raises it. -/
theorem counted_on {id : TaskId} {k : Counter} {s : MemoryTasks} (c : Call)
    (uncounted : ∀ t ∈ c.brought?, ∀ k, t.count k = 0) (nonneg : 0 ≤ s.counted id k) :
    0 ≤ (c.on s).2.counted id k ∧
      (c.on s).2.counted id k ≤ s.counted id k + if c.raises id k then 1 else 0 := by
  have same {after : MemoryTasks} (kept : after.counted id k = s.counted id k) :
      0 ≤ after.counted id k ∧ after.counted id k ≤ s.counted id k + 0 := by
    omega
  have placed (t : TaskInfo) (fresh : t.count k = 0) :
      0 ≤ (s.put t).counted id k ∧ (s.put t).counted id k ≤ s.counted id k + 0 := by
    rw [MemoryTasks.counted_put]
    split <;> omega
  cases c with
  | insert t =>
    rw [on, Action.snd_bind_pure]
    show 0 ≤ (MemoryTasks.insert t s).2.counted id k ∧ (MemoryTasks.insert t s).2.counted id k ≤ _
    unfold MemoryTasks.insert
    split
    · exact same rfl
    · exact placed t (uncounted t rfl k)
  | upsert t => exact placed t (uncounted t rfl k)
  | find task => exact same rfl
  | list states => exact same rfl
  | increment task counter =>
    rw [on, Action.snd_bind_pure]
    have bounds := MemoryTasks.counted_revising s task id TaskInfo.isActive Option.isSome
      (a := .bump counter) (n := if k = counter then 1 else 0) (by split <;> decide)
      fun t => t.count_bump counter k
    have raised : (if task = id then if k = counter then 1 else 0 else 0 : Int)
        = if (increment task counter).raises id k then 1 else 0 := by
      by_cases own : task = id <;> simp [raises, own]
    rw [raised] at bounds
    exact ⟨Int.le_trans nonneg bounds.1, bounds.2⟩
  | setExpected | transition | recordFatal | complete =>
    rw [on, Action.snd_bind_pure]
    exact same (MemoryTasks.counted_revising_eq s _ id _ _ fun t => by cases k <;> rfl)

/-- A call that may fail leaves a store alone or does what it would have done. -/
theorem on_faulty {T : Type} [TaskStore T] (c : Call) (f : Faulty TaskOp StoreError T) :
    (c.on f).2.store = f.store ∨ (c.on f).2.store = (c.on f.store).2 := by
  have reworded {α : Type} (op : TaskOp) (x : Action T StoreError α)
      (form : α → Answer) :
      ((Faulty.call op x >>= fun a => pure (form a)) f).2.store = f.store ∨
        ((Faulty.call op x >>= fun a => pure (form a)) f).2.store
          = ((x >>= fun a => pure (form a)) f.store).2 := by
    rw [Action.snd_bind_pure, Action.snd_bind_pure]
    exact Faulty.store_call op x f
  cases c <;> exact reworded _ _ _

end TaskStore.Call

namespace Tracker

namespace Request

variable {r : Request} {id : TaskId} {ending : RecordState}

/-- A registration brings a record of which nothing is counted. -/
theorem uncounted_own (r : Request) : ∀ t ∈ r.own.brought?, ∀ k, t.count k = 0 := by
  intro t mem
  cases r with
  | register u uncounted replace =>
    obtain rfl : u = t := by cases replace <;> exact Option.some.inj mem
    exact uncounted
  | revise call change meant => cases change <;> cases mem
  | _ => cases mem

/-- Whether a request announces that a record of a task has come to an end. -/
def announces (id : TaskId) (ending : RecordState) (r : Request) : Bool :=
  r.announced?.any (Notification.tells id ending)

/-- **Who counts an end that is reported has it announced**. -/
theorem announces_of_raises (counts : r.own.raises id ending.counter = true) :
    r.announces id ending = true := by
  cases r with
  | register t uncounted replace => cases replace <;> cases counts
  | revise call change meant =>
    cases change with
    | count counter =>
      have means : call.task = id ∧ ending.counter = counter := by
        simpa [own, Change.storeCall, TaskStore.Call.raises] using counts
      obtain ⟨rfl, rfl⟩ := means
      cases ending <;> cases call <;> cases meant <;>
        simp [announces, announced?, Call.announced, Notification.tells, Notification.ofError,
          Notification.ofDeleted, Call.task]
    | _ => cases counts
  | _ => cases counts

/-- To look for completion brings no record and raises no count. -/
theorem look_of_look? {look : TaskStore.Call} (due : r.look? = some look) :
    look.brought? = none ∧ ∀ id k, look.raises id k = false := by
  cases r with
  | revise call change meant =>
    obtain ⟨-, ⟨⟩⟩ := Option.ite_none_right_eq_some.1 due
    exact ⟨rfl, fun _ _ => rfl⟩
  | _ => cases due

end Request

/-! ## Counts and announcements -/

namespace Request

/-- Whether a request has had an end of a record announced that it has yet to count. -/
def Serving.owes (id : TaskId) (ending : RecordState) (l : Serving) : Bool :=
  l.phase = .acting && l.request.announces id ending

variable {r : Request} {id : TaskId} {ending : RecordState}

@[simp] theorem owes_announcing : Serving.owes id ending ⟨r, .announcing⟩ = false := rfl

@[simp] theorem owes_acting :
    Serving.owes id ending ⟨r, .acting⟩ = r.announces id ending := rfl

@[simp] theorem owes_settling : Serving.owes id ending ⟨r, .settling⟩ = false := rfl

@[simp] theorem owes_ended : Serving.owes id ending r.ended = false := rfl

theorem owes_begun (r : Request) : r.begun.owes id ending = false := by
  rw [begun]
  cases said : r.announced? with
  | none =>
    show r.announces id ending = false
    rw [announces, said, Option.any_none]
  | some n => rfl

@[simp] theorem owes_onward (result : Except StoreError TaskStore.Answer) :
    Serving.owes id ending ⟨r, r.onward result⟩ = false := by
  cases result with
  | ok a =>
    rw [onward]
    split <;> rfl
  | error err => rfl

end Request

open Request

/-- A task store that may fail. -/
abbrev FaultyTasks := Faulty TaskOp StoreError MemoryTasks

section

variable {N : Type} [NotificationSink N] {id : TaskId} {ending : RecordState}

/-- No count, and nothing that is yet to be counted, goes beyond what was accepted. -/
structure Covered (id : TaskId) (ending : RecordState) (c : Crew (Watched FaultyTasks N) Serving) :
    Prop where
  nonneg : 0 ≤ c.shared.tracker.tasks.store.counted id ending.counter
  covered : c.shared.tracker.tasks.store.counted id ending.counter
      + c.members.countP (Serving.owes id ending)
    ≤ c.shared.accepted.countP (Notification.tells id ending)

/-- What a call of the task store can do to a count, be it that it fails. -/
theorem counted_call (c : TaskStore.Call) (uncounted : ∀ t ∈ c.brought?, ∀ k, t.count k = 0)
    {k : Counter} {f : FaultyTasks} (nonneg : 0 ≤ f.store.counted id k) :
    0 ≤ (c.on f).2.store.counted id k ∧
      (c.on f).2.store.counted id k ≤ f.store.counted id k + if c.raises id k then 1 else 0 := by
  rcases c.on_faulty f with same | done
  · rw [same]
    refine ⟨nonneg, Int.le_add_of_nonneg_right ?_⟩
    split <;> decide
  · rw [done]
    exact c.counted_on uncounted nonneg

/-- **What a step counts or leaves to be counted** was to be counted before or is announced by
it. -/
theorem counted_turn {l l' : Serving} {w w' : Watched FaultyTasks N}
    (turn : Serving.Turn w l l' w')
    (nonneg : 0 ≤ w.tracker.tasks.store.counted id ending.counter) :
    0 ≤ w'.tracker.tasks.store.counted id ending.counter ∧
      w'.tracker.tasks.store.counted id ending.counter
          + (if l'.owes id ending then 1 else 0 : Nat)
          + w.accepted.countP (Notification.tells id ending)
        ≤ w.tracker.tasks.store.counted id ending.counter
          + (if l.owes id ending then 1 else 0 : Nat)
          + w'.accepted.countP (Notification.tells id ending) := by
  cases turn with
  | accept r n notices said took =>
    have told : Serving.owes id ending ⟨r, .acting⟩ = n.tells id ending := by
      rw [owes_acting, announces, said, Option.any_some]
    refine ⟨nonneg, ?_⟩
    rw [told, List.countP_append, List.countP_singleton]
    push_cast
    omega
  | refuse r n notices err refused => exact ⟨nonneg, Int.le_refl _⟩
  | act r =>
    obtain ⟨nonneg', raised⟩ := counted_call r.own r.uncounted_own nonneg
    refine ⟨nonneg', ?_⟩
    rw [owes_acting, owes_onward]
    cases counts : r.own.raises id ending.counter with
    | false =>
      simp only [counts, Bool.false_eq_true, if_false] at raised ⊢
      omega
    | true =>
      simp only [counts, announces_of_raises counts, Bool.false_eq_true, if_true, if_false]
        at raised ⊢
      omega
  | look r look due =>
    obtain ⟨brings, raises⟩ := look_of_look? due
    have uncounted : ∀ t ∈ look.brought?, ∀ k, t.count k = 0 := by
      rw [brings]
      intro t mem
      cases mem
    obtain ⟨nonneg', raised⟩ := counted_call look uncounted nonneg
    rw [raises] at raised
    exact ⟨nonneg', by simpa using raised⟩

/-- **Every step keeps the counts covered**. -/
theorem Covered.turn {before after : List Serving} {l l' : Serving} {w w' : Watched FaultyTasks N}
    (h : Covered id ending ⟨before ++ l :: after, w⟩) (turn : Serving.Turn w l l' w') :
    Covered id ending ⟨before ++ l' :: after, w'⟩ := by
  obtain ⟨nonneg, covered⟩ := h
  obtain ⟨nonneg', balance⟩ := counted_turn turn nonneg
  have owing := Crew.countP_splice before after l l' (Serving.owes id ending)
  refine ⟨nonneg', ?_⟩
  simp only at covered ⊢
  omega

/-- **Whatever the order of the steps**, the counts stay covered. -/
theorem Covered.run {c c' : Crew (Watched FaultyTasks N) Serving} (h : Covered id ending c)
    (run : Crew.Run Serving.next c c') : Covered id ending c' := by
  refine run.keeps h ?_
  rintro _ _ covered (⟨next, made⟩ : Crew.Step _ _ _)
  exact covered.turn (Serving.turn_of_next next made)

end

/-! ## What is listed -/

/-- A notification sink that may fail. -/
abbrev FaultyNotices := Faulty NoticeOp StoreError MemoryNotifications

section

variable {T : Type} [TaskStore T]

/-- The sink holds what was accepted, and no announcement is planned to take effect and then
fail. -/
structure Noted (w : Watched T FaultyNotices) : Prop where
  entries : w.tracker.notices.store.entries = w.accepted
  harmless : w.tracker.notices.Harmless .notify

theorem Noted.turn {l l' : Serving} {w w' : Watched T FaultyNotices} (h : Noted w)
    (turn : Serving.Turn w l l' w') : Noted w' := by
  have announced (n : Notification) :=
    have run : (NotificationSink.notify n : Action MemoryNotifications StoreError Unit)
        w.tracker.notices.store = (.ok (), ⟨w.tracker.notices.store.entries ++ [n]⟩) := rfl
    Faulty.call_cases run h.harmless
  cases turn with
  | accept r n notices said took =>
    obtain ⟨f', harmless, ⟨made, store⟩ | ⟨err, failed, -⟩⟩ := announced n
    · cases made.symm.trans took
      refine ⟨?_, harmless _ h.harmless⟩
      show notices.store.entries = w.accepted ++ [n]
      rw [store, ← h.entries]
    · cases failed.symm.trans took
  | refuse r n notices err refused =>
    obtain ⟨f', harmless, ⟨made, -⟩ | ⟨err', failed, store⟩⟩ := announced n
    · cases made.symm.trans refused
    · cases failed.symm.trans refused
      refine ⟨?_, harmless _ h.harmless⟩
      show notices.store.entries = w.accepted
      rw [store, h.entries]
  | act | look => exact ⟨h.entries, h.harmless⟩

theorem Noted.run {c c' : Crew (Watched T FaultyNotices) Serving} (h : Noted c.shared)
    (run : Crew.Run Serving.next c c') : Noted c'.shared := by
  refine run.keeps (P := fun c => Noted c.shared) h ?_
  rintro _ _ noted (⟨next, made⟩ : Crew.Step _ _ _)
  exact noted.turn (Serving.turn_of_next next made)

end

/-! ## Counts and what is listed -/

/-- A tracker whose stores may fail, before anything has happened. -/
def Watched.start (tasks : TaskOp → List (Option (Fault StoreError)))
    (notices : NoticeOp → List (Option (Fault StoreError))) : Watched FaultyTasks FaultyNotices :=
  ⟨⟨⟨MemoryTasks.empty, tasks⟩, ⟨MemoryNotifications.empty, notices⟩⟩, []⟩

/-- The notifications of a task that were accepted, in order. -/
def Watched.listed {T N : Type} (w : Watched T N) (id : TaskId) : List Notification :=
  w.accepted.filter (·.taskId = id)

/-- What is listed for a task is what was accepted, in order, and of the ends that are reported no
more are counted than are listed. -/
structure Faithful (w : Watched FaultyTasks FaultyNotices) : Prop where
  listed : ∀ id, notificationsOf id w.tracker = (.ok (w.listed id), w.tracker)
  errors : ∀ id t, w.tracker.tasks.store.find? id = some t →
    t.errors ≤ (w.listed id).countP (·.state = .error)
  deleted : ∀ id t, w.tracker.tasks.store.find? id = some t →
    t.deleted ≤ (w.listed id).countP (·.state = .deleted)

section

variable {tasks : TaskOp → List (Option (Fault StoreError))}
  {notices : NoticeOp → List (Option (Fault StoreError))}

/-- Requests that have not begun owe nothing. -/
theorem Covered.begun (rs : List Request) (id : TaskId) (ending : RecordState) :
    Covered id ending ⟨rs.map begun, .start tasks notices⟩ := by
  have owing : (rs.map Request.begun).countP (Serving.owes id ending) = 0 := by
    rw [List.countP_eq_zero]
    intro l mem
    obtain ⟨r, -, rfl⟩ := List.mem_map.1 mem
    rw [owes_begun]
    exact Bool.false_ne_true
  refine ⟨Int.le_refl 0, ?_⟩
  rw [owing]
  exact Int.le_refl 0

theorem countP_listed {T N : Type} (w : Watched T N) (id : TaskId) (ending : RecordState) :
    (w.listed id).countP (·.state = ending) = w.accepted.countP (Notification.tells id ending) :=
  List.countP_filter

theorem faithful_of_run
    (harmless : ∀ fault, some fault ∈ notices .notify → fault.afterwards = false)
    {rs : List Request} {c : Crew (Watched FaultyTasks FaultyNotices) Serving}
    (run : Crew.Run Serving.next ⟨rs.map begun, .start tasks notices⟩ c) : Faithful c.shared := by
  have counts {id : TaskId} {t : TaskInfo} (ending : RecordState)
      (here : c.shared.tracker.tasks.store.find? id = some t) :
      t.count ending.counter ≤ (c.shared.listed id).countP (·.state = ending) := by
    obtain ⟨-, covered⟩ := (Covered.begun rs id ending).run run
    rw [MemoryTasks.counted_of_find? here, ← countP_listed] at covered
    omega
  have noted : Noted c.shared :=
    Noted.run (c := ⟨rs.map begun, .start tasks notices⟩) ⟨rfl, harmless⟩ run
  refine ⟨fun id => ?_, fun id t => counts .error, fun id t => counts .deleted⟩
  rw [Watched.listed, ← noted.entries]
  rfl

/-- **What is counted was announced, and what was announced stays listed.**  Whatever calls of the
stores fail, as long as no announcement fails that has taken effect: after requests one after
another, and at any time while requests are served at the same time, the notifications listed for a
task are those that were accepted, in order, and no more failed or removed records are counted than
are listed; and what is listed later only goes on from there. -/
theorem failures_announced
    (harmless : ∀ fault, some fault ∈ notices .notify → fault.afterwards = false)
    (rs : List Request) :
    Faithful (serveAll rs (.start tasks notices)) ∧
    (∀ later id, (serveAll rs (.start tasks notices)).listed id
      <+: (serveAll (rs ++ later) (.start tasks notices)).listed id) ∧
    ∀ c, Crew.Run Serving.next ⟨rs.map begun, .start tasks notices⟩ c →
      Faithful c.shared ∧
      ∀ c', Crew.Run Serving.next c c' → ∀ id, c.shared.listed id <+: c'.shared.listed id := by
  have grows {c c' : Crew (Watched FaultyTasks FaultyNotices) Serving}
      (run : Crew.Run Serving.next c c') (id : TaskId) :
      c.shared.listed id <+: c'.shared.listed id := (accepted_of_run run).filter _
  refine ⟨faithful_of_run harmless (run_in_turn rs _), fun later id => ?_, fun c run =>
    ⟨faithful_of_run harmless run, fun c' => grows⟩⟩
  rw [serveAll_append]
  exact grows (run_in_turn later _) id

end

/-- The first count fails, and so does the first look whether a task is complete. -/
def flakyTasks : TaskOp → List (Option (Fault StoreError))
  | .increment | .complete => [some ⟨.storage "no connection", false⟩]
  | _ => []

/-- The second announcement fails. -/
def flakyNotices : NoticeOp → List (Option (Fault StoreError))
  | .notify => [none, some ⟨.storage "disk full", false⟩]

/-- A task is begun, registered anew and begun again; the same record fails twice, and another is
removed. -/
def flakyRequests : List Request :=
  [.register (.new .epoch ⟨7⟩ "harvest" 1 none) (TaskInfo.count_new _ _ _ _ _) false,
    .revise (.start .epoch ⟨7⟩) _ rfl,
    .revise (.failed .epoch ⟨⟨7⟩, "map", "unreadable", ""⟩) _ rfl,
    .register (.new .epoch ⟨7⟩ "harvest" 1 none) (TaskInfo.count_new _ _ _ _ _) true,
    .revise (.start .epoch ⟨7⟩) _ rfl,
    .revise (.failed .epoch ⟨⟨7⟩, "map", "unreadable", ""⟩) _ rfl,
    .revise (.deleted .epoch ⟨7⟩ "score") _ rfl]

/-- The failure is announced; before it can be counted, which fails, the task is registered anew.
The removal cannot be announced.  When the failure is reported again, it is announced and counted,
but nobody learns that the task is complete. -/
def flakyCrew : Crew (Watched FaultyTasks FaultyNotices) Serving :=
  Crew.follow Serving.next [0, 1, 2, 3, 4, 2, 6, 5, 5, 5]
    ⟨flakyRequests.map begun, .start flakyTasks flakyNotices⟩

theorem failures_announced_flaky :
    (∀ fault, some fault ∈ flakyNotices .notify → fault.afterwards = false) ∧
      Faithful flakyCrew.shared ∧
      (flakyCrew.shared.tracker.tasks.store.find? ⟨7⟩).map (fun t => (t.errors, t.state))
        = some (1, .processing) ∧
      (flakyCrew.shared.listed ⟨7⟩).map Notification.state = [.error, .error] := by
  have harmless : ∀ fault, some fault ∈ flakyNotices .notify → fault.afterwards = false := by
    simp [flakyNotices]
  have served := (failures_announced harmless flakyRequests).2.2 flakyCrew (Crew.run_follow _ _)
  exact ⟨harmless, served.1, by decide +kernel, by decide +kernel⟩

end Tracker

end Conveyor
