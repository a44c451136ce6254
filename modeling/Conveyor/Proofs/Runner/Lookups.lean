import Conveyor.Proofs.Queue.Spares
import Conveyor.Runner.Basic
import Conveyor.Tracker.Memory

/-!
# Polls when some tasks cannot be looked up

A worker looks up the task of a message before it does anything else.  If that fails the message is
given back; if nothing else fails, every other message is dealt with.  What a poll does to the queue
can then be told without the tracker and the services, whose answers are left open.

* `Action.Succeeds`, `Action.Fails` — how an action ends wherever a property holds, which it keeps.
* `Tracker.BlindTo` — a tracker that cannot look up some tasks, and whose calls succeed otherwise;
  `Tracker.Reliable` — one that can look up all.
* `Worker.Treats`, `Worker.Serves`, `Worker.Polls`, `Rounds` — what a message, a batch, a poll and a
  round of polls may do to a queue, and how many messages are acknowledged.
* **`Worker.handle_treats`** — a worker with such a tracker does nothing else to one message.
* **`sum_rounds`** — and so the polls of several workers do nothing else.
-/

namespace Conveyor

namespace Action

variable {σ ε α β : Type} {P : σ → Prop} {x : Action σ ε α} {f : α → Action σ ε β}

/-- An action succeeds wherever a property holds, which it keeps. -/
def Succeeds (P : σ → Prop) (x : Action σ ε α) : Prop :=
  ∀ s, P s → ∃ a s', x s = (.ok a, s') ∧ P s'

/-- An action fails wherever a property holds, which it keeps. -/
def Fails (P : σ → Prop) (x : Action σ ε α) : Prop :=
  ∀ s, P s → ∃ err s', x s = (.error err, s') ∧ P s'

theorem succeeds_pure (a : α) : Succeeds P (pure a : Action σ ε α) := fun s h => ⟨a, s, rfl, h⟩

theorem Succeeds.bind (hx : Succeeds P x) (hf : ∀ a, Succeeds P (f a)) : Succeeds P (x >>= f) := by
  intro s h
  obtain ⟨a, s', run, kept⟩ := hx s h
  rw [bind_of_ok run]
  exact hf a s' kept

theorem Fails.bind (hx : Fails P x) (f : α → Action σ ε β) : Fails P (x >>= f) := by
  intro s h
  obtain ⟨err, s', run, kept⟩ := hx s h
  exact ⟨err, s', bind_of_error run, kept⟩

end Action

/-! ## Trackers -/

namespace Tracker

variable {T N : Type} [TaskStore T] [NotificationSink N] {B : Set TaskId}
  {sound : Tracker T N → Prop}

/-- A tracker that cannot look up the tasks of a set, and whose other calls succeed, in any of some
states that it does not leave. -/
structure BlindTo (B : Set TaskId) (sound : Tracker T N → Prop) : Prop where
  fails : ∀ id ∈ B, (find id).Fails sound
  finds : ∀ id ∉ B, (find id).Succeeds sound
  increments : ∀ id counter, (onTasks (TaskStore.increment id counter)).Succeeds sound
  completes : ∀ now id, (onTasks (TaskStore.complete now id)).Succeeds sound
  notifies : ∀ n, (onNotices (NotificationSink.notify n)).Succeeds sound

/-- A tracker whose calls all succeed, in any of some states that it does not leave. -/
abbrev Reliable (sound : Tracker T N → Prop) : Prop := BlindTo ∅ sound

/-- The tracker in memory is one, whatever has happened to it. -/
theorem reliable_memory : Reliable fun _ : Tracker MemoryTasks MemoryNotifications => True where
  fails _ lost := lost.elim
  finds _ _ _ _ := ⟨_, _, rfl, trivial⟩
  increments _ _ _ _ := ⟨_, _, rfl, trivial⟩
  completes _ _ _ _ := ⟨_, _, rfl, trivial⟩
  notifies _ _ _ := ⟨_, _, rfl, trivial⟩

namespace BlindTo

variable (blind : BlindTo B sound)

include blind

theorem fails_isDropped {id : TaskId} (lost : id ∈ B) : (isDropped id).Fails sound :=
  (blind.fails id lost).bind _

theorem succeeds_isDropped {id : TaskId} (found : id ∉ B) : (isDropped id).Succeeds sound :=
  (blind.finds id found).bind fun _ => Action.succeeds_pure _

theorem succeeds_bump (now : Timestamp) (id : TaskId) (counter : Counter) :
    (bump now id counter).Succeeds sound := by
  refine (blind.increments id counter).bind fun active => ?_
  cases active with
  | true => exact blind.completes now id
  | false => exact Action.succeeds_pure none

theorem succeeds_failed (now : Timestamp) (e : RecordError) : (failed now e).Succeeds sound :=
  (blind.notifies _).bind fun _ => blind.succeeds_bump now _ _

theorem succeeds_deleted (now : Timestamp) (id : TaskId) (resource : String) :
    (deleted now id resource).Succeeds sound :=
  (blind.notifies _).bind fun _ => blind.succeeds_bump now _ _

end BlindTo

end Tracker

namespace Plant

variable {Q T N V α : Type} {sound : Tracker T N → Prop}

theorem onTracker_of_succeeds {x : Action (Tracker T N) StoreError α} (h : x.Succeeds sound)
    {p : Plant Q T N V} (ok : sound p.tracker) :
    ∃ a t, onTracker x p = (.ok a, { p with tracker := t }) ∧ sound t := by
  obtain ⟨a, t, run, kept⟩ := h _ ok
  refine ⟨a, t, ?_, kept⟩
  show ((x p.tracker).1, ({ p with tracker := (x p.tracker).2 } : Plant Q T N V)) = _
  rw [run]

theorem onTracker_of_fails {x : Action (Tracker T N) StoreError α} (h : x.Fails sound)
    {p : Plant Q T N V} (ok : sound p.tracker) :
    ∃ err t, onTracker x p = (.error err, { p with tracker := t }) ∧ sound t := by
  obtain ⟨err, t, run, kept⟩ := h _ ok
  refine ⟨err, t, ?_, kept⟩
  show ((x p.tracker).1, ({ p with tracker := (x p.tracker).2 } : Plant Q T N V)) = _
  rw [run]

/-- A report that succeeds changes the tracker only. -/
theorem report_of_succeeds [Clock V] {x : Timestamp → Action (Tracker T N) StoreError α}
    (h : ∀ now, (x now).Succeeds sound) {p : Plant Q T N V} (ok : sound p.tracker) :
    ∃ t, (do let _ ← report x; pure () : Action (Plant Q T N V) StoreError Unit) p
      = (.ok (), { p with tracker := t }) ∧ sound t := by
  obtain ⟨a, t, run, kept⟩ := onTracker_of_succeeds (h (Clock.now p)) ok
  exact ⟨t, Action.bind_of_ok (show report x p = _ from run), kept⟩

end Plant

/-! ## What is done to a queue -/

namespace Worker

variable {V : Type}

/-- What a worker may do to a queue about a message if it cannot look up the tasks of a set, and
whether the message is acknowledged. -/
inductive Treats (w : Worker V) (B : Set TaskId) (d : Delivery) (q : MemoryQueue) :
    Nat → MemoryQueue → Prop where
  /-- It is given back. -/
  | back (lost : d.envelope.taskId ∈ B) : Treats w B d q 0 (q.release d.id)
  /-- It is done with. -/
  | off (found : d.envelope.taskId ∉ B) : Treats w B d q 1 (q.ack d.id)
  /-- A record is handed on in its place. -/
  | onward {topic : String} (e : Envelope) (found : d.envelope.taskId ∉ B)
      (next : w.next = some topic) :
      Treats w B d q 1 ((q.publish topic (w.topology.partitionFor e) e).2.ack d.id)

/-- What it may do about the messages of a batch, one after the other. -/
inductive Serves (w : Worker V) (B : Set TaskId) :
    List Delivery → MemoryQueue → Nat → MemoryQueue → Prop where
  | nil {q : MemoryQueue} : Serves w B [] q 0 q
  | cons {d : Delivery} {rest : List Delivery} {q q' q'' : MemoryQueue} {k n : Nat}
      (first : Treats w B d q k q') (others : Serves w B rest q' n q'') :
      Serves w B (d :: rest) q (k + n) q''

/-- What a poll may do. -/
def Polls (w : Worker V) (B : Set TaskId) (q : MemoryQueue) (k : Nat) (q' : MemoryQueue) : Prop :=
  w.Serves B (q.claim w.topic w.partition w.batch).1 (q.claim w.topic w.partition w.batch).2 k q'

end Worker

/-- What the polls of several workers may do, one after the other. -/
inductive Rounds {V : Type} (B : Set TaskId) :
    List (Worker V) → MemoryQueue → Nat → MemoryQueue → Prop where
  | nil {q : MemoryQueue} : Rounds B [] q 0 q
  | cons {w : Worker V} {rest : List (Worker V)} {q q' q'' : MemoryQueue} {k n : Nat}
      (first : w.Polls B q k q') (others : Rounds B rest q' n q'') :
      Rounds B (w :: rest) q (k + n) q''

/-! ## Workers with a tracker that cannot look up some tasks -/

section

variable {T N V : Type} [TaskStore T] [NotificationSink N] [Clock V] {B : Set TaskId}
  {sound : Tracker T N → Prop} (blind : Tracker.BlindTo B sound)
  {p : Plant MemoryQueue T N V} (ok : sound p.tracker)

include blind ok

namespace Worker

/-- To record an outcome succeeds, and publishes a record on the next topic if it publishes any. -/
theorem record_succeeds (w : Worker V) (id : TaskId) (outcome : Outcome) :
    ∃ p', w.record id outcome p = (.ok (), p') ∧ sound p'.tracker ∧
      (p'.queue = p.queue ∨ ∃ topic e, w.next = some topic ∧
        p'.queue = (p.queue.publish topic (w.topology.partitionFor e) e).2) := by
  cases outcome with
  | forward e =>
    cases next : w.next with
    | some topic =>
      refine ⟨{ p with queue := (p.queue.publish topic (w.topology.partitionFor e) e).2 }, ?_, ok,
        .inr ⟨topic, e, rfl, rfl⟩⟩
      simp only [record, next]
      rfl
    | none =>
      obtain ⟨t, run, kept⟩ := Plant.report_of_succeeds
        (fun now => blind.succeeds_bump now id .processed) ok
      refine ⟨{ p with tracker := t }, ?_, kept, .inl rfl⟩
      simp only [record, next]
      exact run
  | error e =>
    obtain ⟨t, run, kept⟩ := Plant.report_of_succeeds (fun now => blind.succeeds_failed now e) ok
    exact ⟨{ p with tracker := t }, run, kept, .inl rfl⟩
  | drop task resource =>
    obtain ⟨t, run, kept⟩ := Plant.report_of_succeeds
      (fun now => blind.succeeds_deleted now task resource) ok
    exact ⟨{ p with tracker := t }, run, kept, .inl rfl⟩

/-- **What a worker does about a message** is one of the things that it may do. -/
theorem handle_treats (w : Worker V) (d : Delivery) :
    ∃ k p', w.handle d p = (k, p') ∧ w.Treats B d p.queue k p'.queue ∧ sound p'.tracker := by
  by_cases lost : d.envelope.taskId ∈ B
  · obtain ⟨err, t, run, kept⟩ := Plant.onTracker_of_fails (blind.fails_isDropped lost) ok
    have examined : w.examine d p = (.error err, { p with tracker := t }) :=
      Action.bind_of_error run
    refine ⟨0, giveBack d { p with tracker := t }, ?_, .back lost, kept⟩
    rw [handle, examined]
  · obtain ⟨void, t, run, kept⟩ := Plant.onTracker_of_succeeds (blind.succeeds_isDropped lost) ok
    cases void with
    | true =>
      have examined : w.examine d p = (.ok none, { p with tracker := t }) := Action.bind_of_ok run
      refine ⟨1, { p with tracker := t, queue := p.queue.ack d.id }, ?_, .off lost, kept⟩
      rw [handle, examined]
      rfl
    | false =>
      obtain ⟨outcome, services, ran⟩ :
          ∃ outcome services, w.stage.run d.envelope p.services = (outcome, services) :=
        ⟨_, _, rfl⟩
      have examined : w.examine d p
          = (.ok (some outcome), { p with tracker := t, services := services }) := by
        refine (Action.bind_of_ok run).trans ?_
        show ((Except.ok (some (w.stage.run d.envelope p.services).1), { p with
            tracker := t, services := (w.stage.run d.envelope p.services).2 }) :
          Except StoreError (Option Outcome) × Plant MemoryQueue T N V) = _
        rw [ran]
      obtain ⟨p', recorded, kept, queue⟩ := record_succeeds
        (p := { p with tracker := t, services := services }) blind kept w d.envelope.taskId outcome
      refine ⟨1, { p' with queue := p'.queue.ack d.id }, ?_, ?_, kept⟩
      · rw [handle, examined]
        show w.conclude d (some outcome) _ = _
        rw [conclude, settle]
        simp only
        rw [Action.bind_of_ok recorded]
        rfl
      · rcases queue with same | ⟨topic, e, next, published⟩
        · show w.Treats B d p.queue 1 (p'.queue.ack d.id)
          rw [same]
          exact .off lost
        · show w.Treats B d p.queue 1 (p'.queue.ack d.id)
          rw [published]
          exact .onward e lost next

theorem serve_serves (w : Worker V) (batch : List Delivery) :
    ∃ k p', w.serve batch p = (k, p') ∧ w.Serves B batch p.queue k p'.queue ∧
      sound p'.tracker := by
  induction batch generalizing p with
  | nil => exact ⟨0, p, rfl, .nil, ok⟩
  | cons d rest ih =>
    obtain ⟨k, p', here, treats, kept⟩ := handle_treats blind ok w d
    obtain ⟨n, p'', there, serves, kept⟩ := ih kept
    refine ⟨k + n, p'', ?_, .cons treats serves, kept⟩
    simp only [serve, here, there]

theorem poll_polls (w : Worker V) :
    ∃ k p', w.poll p = (.ok k, p') ∧ w.Polls B p.queue k p'.queue ∧ sound p'.tracker := by
  obtain ⟨k, p', run, serves, kept⟩ := serve_serves
    (p := { p with queue := (p.queue.claim w.topic w.partition w.batch).2 }) blind ok w
    (p.queue.claim w.topic w.partition w.batch).1
  refine ⟨k, p', ?_, serves, kept⟩
  exact congrArg (fun served => (Except.ok served.1, served.2)) run

end Worker

/-- **What the polls of several workers do** to the queue is what they may do. -/
theorem sum_rounds (ws : List (Worker V)) :
    ∃ k p', Action.sum ws Worker.poll p = (.ok k, p') ∧ Rounds B ws p.queue k p'.queue ∧
      sound p'.tracker := by
  induction ws generalizing p with
  | nil => exact ⟨0, p, rfl, .nil, ok⟩
  | cons w rest ih =>
    obtain ⟨k, p', here, polls, kept⟩ := w.poll_polls blind ok
    obtain ⟨n, p'', there, rounds, kept⟩ := ih kept
    refine ⟨k + n, p'', ?_, .cons polls rounds, kept⟩
    rw [Action.sum, Action.bind_of_ok here, Action.bind_of_ok there]
    rfl

end

end Conveyor
