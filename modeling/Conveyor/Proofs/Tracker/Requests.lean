import Conveyor.Proofs.Interleaving
import Conveyor.Proofs.Tracker.Agreement

/-!
# Requests to a tracker

Whatever the tracker is asked for comes down to at most three calls of its stores: an announcement,
a call of the task store, and, if that call went as it should, a look whether the task is complete.
The first failure ends the request.  Between two of these calls the tracker serves whom it likes, so
several requests that are served at the same time are a crew in which each takes a step at a time.

* `Tracker.Request` — what a tracker on any stores can be asked for; `Request.perform_eq_run` says
  how it is made of calls of the stores.
* `Request.Serving` — how far a request has come; `Serving.next` is its next call.
* `Tracker.Watched` — a tracker with a note of every notification that was accepted.
* **`Request.run_alone`**, **`run_in_turn`** — a request that is not disturbed does what the tracker
  does, and requests that come one after another are a crew that takes turns.
-/

namespace Conveyor

/-- An action on a part of the state whose answer is put in another form. -/
theorem Action.on_map {σ τ ε α β : Type} (part : Part σ τ) (f : α → β) (x : Action τ ε α) :
    (f <$> x).on part = f <$> x.on part := by
  funext s
  rw [map_eq_pure_bind, map_eq_pure_bind, on_apply, bind_apply, bind_apply, on_apply]
  rcases x (part.get s) with ⟨r, t⟩
  cases r <;> rfl

namespace Tracker

variable {T N : Type} [TaskStore T] [NotificationSink N]

/-- A call of a tracker on any stores. -/
def Call.on : Call → Action (Tracker T N) StoreError Answer
  | register now id topology expected owner replace => do
      Tracker.register (TaskInfo.new now id topology expected owner) replace
      pure .done
  | start now id => .moved <$> Tracker.start now id
  | setExpected now id n => do
      Tracker.setExpected now id n
      pure .done
  | processed now id => .ended <$> Tracker.processed now id
  | failed now e => .ended <$> Tracker.failed now e
  | deleted now id resource => .ended <$> Tracker.deleted now id resource
  | postProcessed now id => .ended <$> Tracker.postProcessed now id
  | fatal now id reason => .ended <$> Tracker.fatal now id reason
  | dropTask now id reason => .moved <$> Tracker.dropTask now id reason
  | failTask now id reason => .moved <$> Tracker.failTask now id reason

/-! ## Requests -/

/-- What a tracker is asked for. -/
inductive Request where
  /-- The registration of a task of which nothing is counted yet. -/
  | register (t : TaskInfo) (uncounted : ∀ k, t.count k = 0) (replace : Bool)
  | find (id : TaskId)
  | list (states : List TaskState)
  | isDropped (id : TaskId)
  /-- A call that changes the record of a task. -/
  | revise (call : Call) (change : Change) (meant : call.change? = some change)

/-- The call of the task store that a change of a record comes down to. -/
def Change.storeCall (now : Timestamp) (id : TaskId) : Change → TaskStore.Call
  | count counter => .increment id counter
  | expect n => .setExpected id n
  | warn reason => .recordFatal id reason
  | move sources target description => .transition now id sources target description

namespace Request

/-- What the tracker does when it is asked; the answer does not matter here. -/
def run : Request → Action (Tracker T N) StoreError Unit
  | register t _ replace => Tracker.register t replace
  | find id => do
      let _ ← Tracker.find id
      pure ()
  | list states => do
      let _ ← Tracker.list states
      pure ()
  | isDropped id => do
      let _ ← Tracker.isDropped id
      pure ()
  | revise call _ _ => do
      let _ ← call.on
      pure ()

/-- What a request announces before anything else. -/
def announced? : Request → Option Notification
  | revise call _ _ => call.announced.head?
  | _ => none

/-- The call of the task store for which a request is made. -/
def own : Request → TaskStore.Call
  | register t _ replace => if replace then .upsert t else .insert t
  | find id | isDropped id => .find id
  | list states => .list states
  | revise call change _ => change.storeCall call.now call.task

/-- The call by which a request looks whether its task is complete, if it is one that does. -/
def look? : Request → Option TaskStore.Call
  | revise call change _ => if change.checks then some (.complete call.now call.task) else none
  | _ => none

/-- What a request still has to do once its own call was answered: nothing was counted of a task
that is done. -/
def follow (r : Request) (a : TaskStore.Answer) : Option TaskStore.Call :=
  if a = .changed false then none else r.look?

def announce : Option Notification → Action (Tracker T N) StoreError Unit
  | some n => onNotices (NotificationSink.notify n)
  | none => pure ()

def finish : Option TaskStore.Call → Action (Tracker T N) StoreError Unit
  | some look => do
      let _ ← onTasks look.on
      pure ()
  | none => pure ()

/-- A request as calls of the stores, one after the other. -/
def perform (r : Request) : Action (Tracker T N) StoreError Unit := do
  announce r.announced?
  let a ← onTasks r.own.on
  finish (r.follow a)

section

variable {r : Request}

omit [TaskStore T] [NotificationSink N] in
theorem onTasks_map {α β : Type} (f : α → β) (x : Action T StoreError α) :
    (onTasks (f <$> x) : Action (Tracker T N) StoreError β) = f <$> onTasks x :=
  Action.on_map tasksPart f x

omit [NotificationSink N] in
theorem finish_none : (finish none : Action (Tracker T N) StoreError Unit) = pure () := rfl

omit [NotificationSink N] in
theorem finish_complete (now : Timestamp) (id : TaskId) :
    (finish (some (.complete now id)) : Action (Tracker T N) StoreError Unit)
      = (fun _ => ()) <$> evaluate now id := by
  simp [finish, TaskStore.Call.on, onTasks_map, evaluate]

omit [NotificationSink N] in
/-- Completion is looked at only if the count was accepted. -/
theorem finish_count (now : Timestamp) (id : TaskId) (accepted : Bool) :
    (finish (if accepted = false then none else some (.complete now id)) :
        Action (Tracker T N) StoreError Unit)
      = (fun _ => ()) <$> if accepted then evaluate now id else pure none := by
  cases accepted with
  | false => simp [finish_none]
  | true => exact finish_complete now id

/-- A request that announces nothing and does not look for completion is one call. -/
theorem perform_of_plain (silent : r.announced? = none) (idle : r.look? = none) :
    (r.perform : Action (Tracker T N) StoreError Unit) = (fun _ => ()) <$> onTasks r.own.on := by
  simp [perform, silent, announce, follow, idle, finish_none]

/-- **A request is made of calls of the stores**. -/
theorem perform_eq_run (r : Request) :
    (r.perform : Action (Tracker T N) StoreError Unit) = r.run := by
  cases r with
  | register t uncounted replace =>
    have unit : ∀ x : Action (Tracker T N) StoreError Unit, (fun _ => ()) <$> x = x := fun x =>
      id_map' x
    rw [perform_of_plain rfl rfl]
    cases replace <;> simp [own, TaskStore.Call.on, onTasks_map, run, Tracker.register, unit]
  | find id =>
    rw [perform_of_plain rfl rfl]
    simp [own, TaskStore.Call.on, onTasks_map, run, Tracker.find]
  | list states =>
    rw [perform_of_plain rfl rfl]
    simp [own, TaskStore.Call.on, onTasks_map, run, Tracker.list]
  | isDropped id =>
    rw [perform_of_plain rfl rfl]
    simp [own, TaskStore.Call.on, onTasks_map, run, Tracker.isDropped, Tracker.find]
  | revise call change meant =>
    cases call with
    | register => cases meant
    | start | dropTask | failTask =>
      cases meant
      rw [perform_of_plain rfl rfl]
      simp [own, Change.storeCall, Call.now, Call.task, TaskStore.Call.on, onTasks_map, run,
        Call.on, Tracker.start, Tracker.dropTask, Tracker.failTask]
    | setExpected | fatal =>
      cases meant
      simp [perform, announced?, Call.announced, announce, own, Change.storeCall, Call.now,
        Call.task, TaskStore.Call.on, onTasks_map, follow, look?, Change.checks, finish_complete,
        run, Call.on, Tracker.setExpected, Tracker.fatal]
    | processed | failed | deleted | postProcessed =>
      cases meant
      simp [perform, announced?, Call.announced, announce, own, Change.storeCall, Call.now,
        Call.task, TaskStore.Call.on, onTasks_map, follow, look?, Change.checks, finish_count,
        run, Call.on, Tracker.processed, Tracker.failed, Tracker.deleted, Tracker.postProcessed,
        bump]

end

/-! ## Requests that are served -/

/-- How far a request has come. -/
inductive Phase where
  | announcing
  | acting
  | settling
  | through
deriving DecidableEq

/-- A request that is served. -/
structure Serving where
  request : Request
  phase : Phase

/-- The request before its first call of a store. -/
def begun (r : Request) : Serving := ⟨r, if r.announced?.isSome then .announcing else .acting⟩

def ended (r : Request) : Serving := ⟨r, .through⟩

end Request

/-- A tracker, with a note of all notifications that it accepted, in order. -/
structure Watched (T N : Type) where
  tracker : Tracker T N
  accepted : List Notification
deriving DecidableEq

namespace Watched

def trackerPart : Part (Watched T N) (Tracker T N) :=
  ⟨Watched.tracker, fun tr w => { w with tracker := tr }⟩

def acceptedPart : Part (Watched T N) (List Notification) :=
  ⟨Watched.accepted, fun ns w => { w with accepted := ns }⟩

end Watched

namespace Request

/-- The call that announces a notification, which is noted if it was accepted. -/
def announcement (r : Request) (n : Notification) : Action (Watched T N) StoreError Serving := do
  match ← (onNotices (NotificationSink.notify n)).attempt.on Watched.trackerPart with
  | .ok _ => do
      Action.on Watched.acceptedPart (.modify (· ++ [n]))
      pure ⟨r, .acting⟩
  | .error _ => pure ⟨r, .through⟩

/-- A call of the task store, and how the request goes on, going by the answer. -/
def consultation (r : Request) (call : TaskStore.Call)
    (onward : Except StoreError TaskStore.Answer → Phase) :
    Action (Watched T N) StoreError Serving := do
  let result ← (onTasks call.on).attempt.on Watched.trackerPart
  pure ⟨r, onward result⟩

/-- How a request goes on after its own call. -/
def onward (r : Request) : Except StoreError TaskStore.Answer → Phase
  | .ok a => if (r.follow a).isSome then .settling else .through
  | .error _ => .through

/-- The next call that a request makes. -/
def Serving.next : Routine (Watched T N) StoreError Serving
  | ⟨r, .announcing⟩ => r.announced?.map r.announcement
  | ⟨r, .acting⟩ => some (r.consultation r.own r.onward)
  | ⟨r, .settling⟩ => r.look?.map fun look => r.consultation look fun _ => .through
  | ⟨_, .through⟩ => none

/-- What a tracker accepts of what a request announces. -/
def accepted (r : Request) (tr : Tracker T N) : List Notification :=
  match r.announced? with
  | some n =>
      match (NotificationSink.notify n tr.notices).1 with
      | .ok _ => [n]
      | .error _ => []
  | none => []

/-- A tracker after a request. -/
def serve (r : Request) (w : Watched T N) : Watched T N :=
  ⟨(r.run w.tracker).2, w.accepted ++ r.accepted w.tracker⟩

section

variable {r : Request} {n : Notification} {w : Watched T N} {notices : N} {err : StoreError}
  {a : TaskStore.Answer}

omit [TaskStore T] in
theorem attempt_notify {result : Except StoreError Unit}
    (made : NotificationSink.notify n w.tracker.notices = (result, notices)) :
    ((onNotices (NotificationSink.notify n)).attempt.on Watched.trackerPart :
        Action (Watched T N) StoreError _) w
      = (.ok result, ⟨⟨w.tracker.tasks, notices⟩, w.accepted⟩) := by
  simp [onNotices, made, Watched.trackerPart, noticesPart]

omit [TaskStore T] in
theorem announcement_of_ok
    (took : NotificationSink.notify n w.tracker.notices = (.ok (), notices)) :
    r.announcement n w
      = (.ok ⟨r, .acting⟩, ⟨⟨w.tracker.tasks, notices⟩, w.accepted ++ [n]⟩) :=
  Action.bind_of_ok (attempt_notify took)

omit [TaskStore T] in
theorem announcement_of_error
    (refused : NotificationSink.notify n w.tracker.notices = (.error err, notices)) :
    r.announcement n w = (.ok r.ended, ⟨⟨w.tracker.tasks, notices⟩, w.accepted⟩) :=
  Action.bind_of_ok (attempt_notify refused)

omit [NotificationSink N] in
theorem consultation_apply (r : Request) (call : TaskStore.Call)
    (onward : Except StoreError TaskStore.Answer → Phase) (w : Watched T N) :
    r.consultation call onward w
      = (.ok ⟨r, onward (call.on w.tracker.tasks).1⟩,
          ⟨⟨(call.on w.tracker.tasks).2, w.tracker.notices⟩, w.accepted⟩) :=
  rfl

/-- What the next call of a request does. -/
inductive Serving.Turn (w : Watched T N) : Serving → Serving → Watched T N → Prop where
  | accept (r : Request) (n : Notification) (notices : N) (said : r.announced? = some n)
      (took : NotificationSink.notify n w.tracker.notices = (.ok (), notices)) :
      Turn w ⟨r, .announcing⟩ ⟨r, .acting⟩ ⟨⟨w.tracker.tasks, notices⟩, w.accepted ++ [n]⟩
  | refuse (r : Request) (n : Notification) (notices : N) (err : StoreError)
      (refused : NotificationSink.notify n w.tracker.notices = (.error err, notices)) :
      Turn w ⟨r, .announcing⟩ r.ended ⟨⟨w.tracker.tasks, notices⟩, w.accepted⟩
  | act (r : Request) :
      Turn w ⟨r, .acting⟩ ⟨r, r.onward (r.own.on w.tracker.tasks).1⟩
        ⟨⟨(r.own.on w.tracker.tasks).2, w.tracker.notices⟩, w.accepted⟩
  | look (r : Request) (look : TaskStore.Call) (due : r.look? = some look) :
      Turn w ⟨r, .settling⟩ r.ended
        ⟨⟨(look.on w.tracker.tasks).2, w.tracker.notices⟩, w.accepted⟩

theorem Serving.turn_of_next {l l' : Serving} {w w' : Watched T N}
    {act : Action (Watched T N) StoreError Serving} (next : Serving.next l = some act)
    (run : act w = (.ok l', w')) : Turn w l l' w' := by
  obtain ⟨r, phase⟩ := l
  cases phase with
  | announcing =>
    obtain ⟨n, said, rfl⟩ := Option.map_eq_some_iff.1 next
    rcases made : NotificationSink.notify n w.tracker.notices with ⟨result, notices⟩
    cases result with
    | ok =>
      cases run.symm.trans (announcement_of_ok made)
      exact .accept r n notices said made
    | error err =>
      cases run.symm.trans (announcement_of_error made)
      exact .refuse r n notices err made
  | acting =>
    cases next
    cases run.symm.trans (r.consultation_apply r.own r.onward w)
    exact .act r
  | settling =>
    obtain ⟨look, due, rfl⟩ := Option.map_eq_some_iff.1 next
    cases run.symm.trans (r.consultation_apply look (fun _ => .through) w)
    exact .look r look due
  | through => cases next

/-- What was accepted stays accepted. -/
theorem Serving.Turn.accepts {l l' : Serving} {w w' : Watched T N}
    (turn : Turn w l l' w') : w.accepted <+: w'.accepted := by
  cases turn with
  | accept r n => exact List.prefix_append w.accepted [n]
  | _ => exact List.prefix_rfl

/-! ## A request that is not disturbed -/

theorem look?_of_follow {look : TaskStore.Call} (h : r.follow a = some look) :
    r.look? = some look := by
  unfold follow at h
  split at h
  · cases h
  · exact h

theorem run_settling (r : Request) (a : TaskStore.Answer) (w : Watched T N) :
    Crew.Run Serving.next ⟨[⟨r, r.onward (.ok a)⟩], w⟩
      ⟨[r.ended], ⟨(finish (r.follow a) w.tracker).2, w.accepted⟩⟩ := by
  cases due : r.follow a with
  | none =>
    have through : r.onward (.ok a) = .through := by simp [onward, due]
    rw [through]
    exact .refl
  | some look =>
    have settling : r.onward (.ok a) = .settling := by simp [onward, due]
    have next : Serving.next ⟨r, .settling⟩
        = some (r.consultation look fun _ => .through : Action (Watched T N) _ _) := by
      rw [Serving.next, look?_of_follow due, Option.map_some]
    have looked : (finish (some look) w.tracker).2
        = ⟨(look.on w.tracker.tasks).2, w.tracker.notices⟩ :=
      Action.snd_bind_pure (onTasks look.on) (fun _ => ()) w.tracker
    rw [settling, looked]
    exact .single (.alone next (r.consultation_apply look (fun _ => .through) w))

theorem run_acting (r : Request) (w : Watched T N) :
    Crew.Run Serving.next ⟨[⟨r, .acting⟩], w⟩
      ⟨[r.ended], ⟨((do
        let a ← onTasks r.own.on
        finish (r.follow a)) w.tracker).2, w.accepted⟩⟩ := by
  have step : Crew.Step Serving.next ⟨[⟨r, .acting⟩], w⟩ ⟨[⟨r, r.onward _⟩], _⟩ :=
    .alone rfl (r.consultation_apply r.own r.onward w)
  rcases made : r.own.on w.tracker.tasks with ⟨result, tasks⟩
  have ran : onTasks r.own.on w.tracker = (result, ⟨tasks, w.tracker.notices⟩) := by
    simp [onTasks, made, tasksPart]
  rw [made] at step
  cases result with
  | ok a =>
    rw [Action.bind_of_ok ran]
    exact .head step (r.run_settling a _)
  | error err =>
    rw [Action.bind_of_error ran]
    exact .single step

/-- **A request that is not disturbed** does what the tracker does when it is asked. -/
theorem run_alone (r : Request) (w : Watched T N) :
    Crew.Run Serving.next ⟨[r.begun], w⟩ ⟨[r.ended], r.serve w⟩ := by
  have served (taken : List Notification) (h : r.accepted w.tracker = taken) :
      r.serve w = ⟨(r.perform w.tracker).2, w.accepted ++ taken⟩ := by
    rw [serve, perform_eq_run, h]
  cases said : r.announced? with
  | none =>
    have begun : r.begun = ⟨r, .acting⟩ := by simp [begun, said]
    rw [begun, served [] (by simp [accepted, said]), perform, said, List.append_nil]
    exact r.run_acting w
  | some n =>
    have begun : r.begun = ⟨r, .announcing⟩ := by simp [begun, said]
    have next : Serving.next ⟨r, .announcing⟩
        = some (r.announcement n : Action (Watched T N) _ _) := by
      rw [Serving.next, said, Option.map_some]
    rcases made : NotificationSink.notify n w.tracker.notices with ⟨result, notices⟩
    have ran : announce (some n) w.tracker = (result, ⟨w.tracker.tasks, notices⟩) := by
      simp [announce, onNotices, made, noticesPart]
    cases result with
    | ok =>
      rw [begun, served [n] (by simp [accepted, said, made]), perform, said, Action.bind_of_ok ran]
      exact .head (.alone next (announcement_of_ok made)) (r.run_acting _)
    | error err =>
      rw [begun, served [] (by simp [accepted, said, made]), perform, said,
        Action.bind_of_error ran, List.append_nil]
      exact .single (.alone next (announcement_of_error made))

end

/-! ## Requests in turn -/

/-- A tracker after requests that come one after another. -/
def serveAll (rs : List Request) (w : Watched T N) : Watched T N :=
  rs.foldl (fun w r => r.serve w) w

theorem serveAll_append (rs later : List Request) (w : Watched T N) :
    serveAll (rs ++ later) w = serveAll later (serveAll rs w) :=
  List.foldl_append

/-- **Requests that come one after another** are a crew that takes turns. -/
theorem run_in_turn (rs : List Request) (w : Watched T N) :
    Crew.Run Serving.next ⟨rs.map begun, w⟩ ⟨rs.map ended, serveAll rs w⟩ := by
  suffices turns : ∀ (rs : List Request) (before : List Serving) (w : Watched T N),
      Crew.Run Serving.next ⟨before ++ rs.map begun, w⟩ ⟨before ++ rs.map ended, serveAll rs w⟩
    from turns rs [] w
  intro rs
  induction rs with
  | nil => exact fun _ _ => .refl
  | cons r later ih =>
    intro before w
    have rest := ih (before ++ [r.ended]) (r.serve w)
    rw [List.append_assoc, List.append_assoc] at rest
    exact ((r.run_alone w).among before (later.map begun)).trans rest

/-- What is accepted at some time is the beginning of what is accepted later. -/
theorem accepted_of_run {c c' : Crew (Watched T N) Serving}
    (run : Crew.Run Serving.next c c') : c.shared.accepted <+: c'.shared.accepted := by
  refine run.keeps (P := fun m => c.shared.accepted <+: m.shared.accepted) List.prefix_rfl ?_
  rintro _ _ before (⟨next, made⟩ : Crew.Step _ _ _)
  exact before.trans (Serving.turn_of_next next made).accepts

end Request

end Tracker

end Conveyor
