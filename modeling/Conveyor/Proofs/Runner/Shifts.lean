import Conveyor.Proofs.Runner.Inert
import Conveyor.Proofs.Topology.Identity
import Conveyor.Runner.Timed

/-!
# Workers that take turns

Workers that work side by side take turns, and what one of them has at hand when its stage sleeps
stays in flight while it is the turn of others.  So the turns of all do to a plant what polls do to
it, in smaller portions: they claim messages, and they deal with messages that they have claimed.

* `Runner.Keeps` — what polls keep, portion by portion, while messages that are dealt with count.
* `Worker.Tended` — what a worker leaves at the end of a turn, to itself and to others;
  **`Runner.Keeps.turn`** says so of every turn.
* `Manned` — shifts whose workers have different messages at hand; **`Manned.turn`** is a turn among
  shifts.
* **`Runner.Keeps.runFor`** — a run for a time keeps what polls keep.  So it leads from a plant that
  can be reached to another (`Reached.runFor`), is a sequence of entries in every account
  (`Runner.entries_runFor`), and leaves dropped tasks at rest (`Resting.runFor`).
-/

namespace Conveyor

variable {V : Type}

/-! ## What polls keep -/

/-- A task was not dropped, as far as it is known. -/
def Plant.Live (p : MemoryPlant V) (id : TaskId) : Prop :=
  ∀ t, p.progress id = some t → t.state ≠ .dropped

/-- A property that the workers of a runner keep, whatever goes on in the services. -/
structure Runner.Keeps [Clock V] (r : Runner V) (I : Nat → MemoryPlant V → Prop) : Prop where
  services : ∀ n p v, I n p → I n { p with services := v }
  worker : ∀ w ∈ r.workers, w.Keeps I

/-- To count a record drops no task. -/
theorem Tracker.Change.count_live (counter : Counter) (now : Timestamp) {t : TaskInfo}
    (live : t.state ≠ .dropped) : ((Change.count counter).revise now t).state ≠ .dropped := by
  have same : ((Change.count counter).own now t).state = t.state := state_own_of_checks rfl now t
  rw [revise_of_checks rfl]
  rcases ((Change.count counter).own now t).state_settled now with still | ⟨-, verdict⟩
  · rw [still, same]
    exact live
  · rw [verdict, TaskInfo.verdict]
    split <;> decide

/-- The handling of a message drops no task. -/
theorem Worker.Handles.live [Clock V] {w : Worker V} {d : Delivery} {p p' : MemoryPlant V}
    (h : w.Handles d p p') {id : TaskId} (live : p.Live id) : p'.Live id := by
  cases h with
  | void => exact live
  | onward => exact live
  | @ended outcome services =>
    intro t after
    have told : (p.told (ending (Clock.now services) d.envelope.taskId outcome)).progress id
      = some t := after
    rw [Plant.progress_told, Tracker.Call.after, change?_ending] at told
    split at told
    · obtain ⟨before, known, rfl⟩ := Option.map_eq_some_iff.1 told
      exact Tracker.Change.count_live _ _ (live before known)
    · exact live t told

/-- A message in flight stays in flight, and apart from those that are claimed. -/
theorem Holds.claim {q : MemoryQueue} {d : Delivery} (h : Holds q d) (topic : String)
    (partition limit : Nat) :
    Holds (q.claim topic partition limit).2 d ∧
      d.id ∉ (q.claim topic partition limit).1.map Delivery.id := by
  obtain ⟨m, mem, flying, rfl⟩ := h
  have left : m ∉ MemoryQueue.taken topic partition limit q := fun took => by
    rw [(MemoryQueue.pending_of_taken took).1] at flying
    cases flying
  refine ⟨⟨m, ?_, flying, rfl⟩, fun batched => ?_⟩
  · rw [MemoryQueue.messages_claim]
    exact List.mem_map.2 ⟨m, mem, if_neg left⟩
  · rw [MemoryQueue.batch_eq, List.map_map] at batched
    obtain ⟨m', took, same⟩ := List.mem_map.1 batched
    obtain rfl := MemoryQueue.eq_of_id_eq (MemoryQueue.mem_of_taken took).1 mem same
    exact left took

/-! ## A turn -/

variable {S : Type}

/-- The messages that are still to be dealt with: the one whose stage sleeps comes first. -/
def Errand.batch (errand : Errand S) : List Delivery := errand.delivery :: errand.rest

def Standing.batch : Standing S → List Delivery
  | served _ => []
  | asleep _ errand => errand.batch

def Shift.batch (shift : Shift S) : List Delivery := shift.errand.elim [] Errand.batch

/-- How many messages of the batch were acknowledged before. -/
def Shift.acked (shift : Shift S) : Nat := shift.errand.elim 0 Errand.acked

namespace Worker

/-- What a worker has at hand stands in the queue, and the task of the first message was not
dropped. -/
structure AtHand (w : Worker V) (batch : List Delivery) (p : MemoryPlant V) : Prop where
  claimed : w.Claimed batch p.queue
  live : ∀ d ∈ batch.head?, p.Live d.envelope.taskId

/-- What a worker leaves that had some messages at hand and has dealt with `k`: what it still has at
hand, and whatever others have in flight. -/
structure Tended (w : Worker (Timed S)) (acked : Nat) (batch : List Delivery)
    (p : MemoryPlant (Timed S)) (k : Nat) (standing : Standing S) (p' : MemoryPlant (Timed S)) :
    Prop where
  /-- All that was at hand is acknowledged and counted, unless the stage sleeps. -/
  answer : ∀ n, standing = .served n → n = acked + k ∧ batch.length ≤ k
  atHand : w.AtHand standing.batch p'
  others : ∀ d, Holds p.queue d → d.id ∉ batch.map Delivery.id →
    Holds p'.queue d ∧ d.id ∉ standing.batch.map Delivery.id
  live : ∀ id, p.Live id → p'.Live id

namespace Tended

variable {w : Worker (Timed S)} {batch rest : List Delivery} {d : Delivery} {acked k : Nat}
  {p p' q : MemoryPlant (Timed S)} {standing : Standing S}

/-- Nothing is at hand. -/
theorem served (w : Worker (Timed S)) (acked : Nat) (p : MemoryPlant (Timed S)) :
    w.Tended acked [] p 0 (.served acked) p where
  answer _ same := ⟨(Standing.served.inj same).symm, Nat.le_refl _⟩
  atHand :=
    { claimed := ⟨List.nodup_nil, fun _ mem => absurd mem List.not_mem_nil,
        fun _ mem => absurd mem List.not_mem_nil, fun _ mem => absurd mem List.not_mem_nil⟩
      live := fun _ first => absurd first nofun }
  others _ held apart := ⟨held, apart⟩
  live _ live := live

/-- The stage of the first message sleeps. -/
theorem asleep (errand : Errand S) (claimed : w.Claimed errand.batch p.queue)
    (live : p.Live errand.delivery.envelope.taskId) (wake : Millis) (v : Timed S) :
    w.Tended acked errand.batch p 0 (.asleep wake errand) { p with services := v } where
  answer _ same := nomatch same
  atHand := by
    refine ⟨claimed, fun d first => ?_⟩
    obtain rfl := Option.some.inj first
    exact live
  others _ held apart := ⟨held, apart⟩
  live _ live := live

/-- The first message of a batch is dealt with, and then the others. -/
theorem cons (spares : MemoryQueue.Spares [d.id] p.queue p'.queue)
    (live : ∀ id, p.Live id → p'.Live id) (h : w.Tended (acked + 1) rest p' k standing q) :
    w.Tended acked (d :: rest) p (1 + k) standing q where
  answer n same := by
    obtain ⟨counted, done⟩ := h.answer n same
    rw [List.length_cons]
    omega
  atHand := h.atHand
  others d' held apart := by
    rw [List.map_cons, List.mem_cons, not_or] at apart
    exact h.others d' (spares.holds held (by simpa using apart.1)) apart.2
  live id before := h.live id (live id before)

/-- A batch is claimed, and then dealt with. -/
theorem claim (h : w.Tended acked (w.batchOf p) (w.claimed p) k standing q) :
    w.Tended acked [] p k standing q where
  answer n same := ⟨(h.answer n same).1, Nat.zero_le k⟩
  atHand := h.atHand
  others d held _ := by
    obtain ⟨stays, apart⟩ := held.claim w.topic w.partition w.batch
    exact h.others d stays apart
  live := h.live

end Tended

variable {w : Worker (Timed S)} {r : Runner (Timed S)} {I : Nat → MemoryPlant (Timed S) → Prop}
  {n : Nat} {p : MemoryPlant (Timed S)}

/-- A stage that runs on sleeps again, or has an outcome. -/
theorem runOn_cases (w : Worker (Timed S)) (errand : Errand S) (p : MemoryPlant (Timed S)) :
    (∃ wake v, w.runOn errand p = (.asleep wake, { p with services := v })) ∨
      ∃ before outcome after, w.stage.run errand.delivery.envelope before = (outcome, after) ∧
        w.runOn errand p = (.ended outcome, { p with services := after.among .alone }) := by
  rw [runOn]
  rcases run : w.stage.run errand.delivery.envelope
    (errand.began.among (.others errand.awakenings)) with ⟨outcome, after⟩
  simp only
  split
  · exact .inl ⟨_, _, rfl⟩
  · exact .inr ⟨_, outcome, after, run, rfl⟩

/-- The outcome of a stage is recorded, whatever the services were when it began. -/
theorem conclude_of_run (keeps : r.Keeps I) (mem : w ∈ r.workers) {d : Delivery}
    {rest : List Delivery} (claimed : w.Claimed (d :: rest) p.queue)
    (live : p.Live d.envelope.taskId) (h : I n p) {before after : Timed S} {outcome : Outcome}
    (run : w.stage.run d.envelope before = (outcome, after)) :
    ∃ q, w.conclude d (some outcome) { p with services := after.among .alone } = (1, q) ∧
      I (n + 1) q ∧ MemoryQueue.Spares [d.id] p.queue q.queue ∧ ∀ id, p.Live id → q.Live id := by
  obtain ⟨p', handles, -, concluded⟩ :=
    conclude_spec (p := { p with services := before }) live run
  have here : d ∈ d :: rest := List.mem_cons_self
  have kept : I (n + 1) p' := (keeps.worker w mem).handle n d _ p' (keeps.services n p before h)
    (claimed.held d here) (claimed.topic d here) (claimed.partition d here) handles
  exact ⟨_, concluded (after.among .alone) rfl, keeps.services _ p' _ kept, handles.spares,
    fun _ => handles.live⟩

/-- **A batch** is dealt with until a stage sleeps. -/
theorem serveOn_spec (keeps : r.Keeps I) (mem : w ∈ r.workers) (batch : List Delivery)
    (acked : Nat) (claimed : w.Claimed batch p.queue) (h : I n p) :
    ∃ k, I (n + k) (w.serveOn batch acked p).2 ∧
      w.Tended acked batch p k (w.serveOn batch acked p).1 (w.serveOn batch acked p).2 := by
  induction batch generalizing acked n p with
  | nil => exact ⟨0, h, .served w acked p⟩
  | cons d rest ih =>
    have here : d ∈ d :: rest := List.mem_cons_self
    by_cases dropped : ∃ t, p.progress d.envelope.taskId = some t ∧ t.state = .dropped
    · obtain ⟨t, known, dropped⟩ := dropped
      have void : isVoid d p = (.ok true, p) := by
        rw [isVoid_apply, known]
        simp [dropped]
      have handles : w.Handles d p { p with queue := p.queue.ack d.id } := .void known dropped
      have kept := (keeps.worker w mem).handle n d p _ h (claimed.held d here)
        (claimed.topic d here) (claimed.partition d here) handles
      have concluded : w.conclude d none p = (1, { p with queue := p.queue.ack d.id }) := rfl
      obtain ⟨k, after, tended⟩ := ih (acked + 1) (claimed.rest handles.spares) kept
      rw [serveOn, void]
      simp only [concluded]
      rw [Nat.add_assoc] at after
      exact ⟨1 + k, after, tended.cons handles.spares fun _ => handles.live⟩
    · have live : p.Live d.envelope.taskId := fun t known state => dropped ⟨t, known, state⟩
      have void : isVoid d p = (.ok false, p) := by
        rw [isVoid_apply]
        cases known : p.progress d.envelope.taskId with
        | none => rfl
        | some t => simp [live t known]
      rw [serveOn, void]
      simp only
      rcases w.runOn_cases ⟨d, rest, acked, p.services, []⟩ p with
        ⟨wake, v, sleeps⟩ | ⟨before, outcome, after, run, ended⟩
      · rw [sleeps]
        exact ⟨0, keeps.services n p v h,
          Tended.asleep ⟨d, rest, acked, p.services, []⟩ claimed live wake v⟩
      · obtain ⟨q, concluded, kept, spares, lives⟩ :=
          conclude_of_run keeps mem claimed live h run
        obtain ⟨k, after, tended⟩ := ih (acked + 1) (claimed.rest spares) kept
        rw [ended]
        simp only [concluded]
        rw [Nat.add_assoc] at after
        exact ⟨1 + k, after, tended.cons spares lives⟩

/-- The stage of an errand goes on, and then the batch. -/
theorem wakeUp_spec (keeps : r.Keeps I) (mem : w ∈ r.workers) {errand : Errand S}
    (atHand : w.AtHand errand.batch p) (h : I n p) :
    ∃ k, I (n + k) (w.wakeUp errand p).2 ∧
      w.Tended errand.acked errand.batch p k (w.wakeUp errand p).1 (w.wakeUp errand p).2 := by
  have live : p.Live errand.delivery.envelope.taskId := atHand.live errand.delivery rfl
  rw [wakeUp]
  simp only
  rcases w.runOn_cases
    { errand with awakenings := errand.awakenings ++ [p.services.inner] } p with
    ⟨wake, v, sleeps⟩ | ⟨before, outcome, after, run, ended⟩
  · rw [sleeps]
    exact ⟨0, keeps.services n p v h, Tended.asleep
      { errand with awakenings := errand.awakenings ++ [p.services.inner] }
      atHand.claimed live wake v⟩
  · obtain ⟨q, concluded, kept, spares, lives⟩ :=
      conclude_of_run keeps mem atHand.claimed live h run
    obtain ⟨k, after, tended⟩ := serveOn_spec keeps mem errand.rest (errand.acked + 1)
      (atHand.claimed.rest spares) kept
    rw [ended]
    simp only [concluded]
    rw [Nat.add_assoc] at after
    exact ⟨1 + k, after, tended.cons spares lives⟩

end Worker

/-- **A turn** keeps what polls keep. -/
theorem Runner.Keeps.turn {r : Runner (Timed S)} {I : Nat → MemoryPlant (Timed S) → Prop}
    (keeps : r.Keeps I) {w : Worker (Timed S)} (mem : w ∈ r.workers) {errand : Option (Errand S)}
    {n : Nat} {p : MemoryPlant (Timed S)} (atHand : w.AtHand (errand.elim [] Errand.batch) p)
    (h : I n p) :
    ∃ k, I (n + k) (w.turn errand p).2 ∧
      w.Tended (errand.elim 0 Errand.acked) (errand.elim [] Errand.batch) p k
        (w.turn errand p).1 (w.turn errand p).2 := by
  cases errand with
  | some errand => exact Worker.wakeUp_spec keeps mem atHand h
  | none =>
    have claim : w.claim p = (.ok (w.batchOf p), w.claimed p) := rfl
    obtain ⟨k, kept, tended⟩ := Worker.serveOn_spec (p := w.claimed p) keeps mem (w.batchOf p) 0
      (w.claimed_claim p.queue) ((keeps.worker w mem).claim n p h)
    rw [Worker.turn, claim]
    exact ⟨k, kept, tended.claim⟩

/-! ## Shifts -/

@[simp] theorem Shift.batch_next (shift : Shift S) (pollInterval : Millis)
    (standing : Standing S) : (shift.next pollInterval standing).batch = standing.batch := by
  cases standing with
  | served acked => cases acked <;> rfl
  | asleep => rfl

@[simp] theorem Shift.worker_next (shift : Shift S) (pollInterval : Millis)
    (standing : Standing S) : (shift.next pollInterval standing).worker = shift.worker := by
  cases standing with
  | served acked => cases acked <;> rfl
  | asleep => rfl

/-- A worker that has acknowledged something has dealt with something in this turn. -/
theorem Shift.dealt_of_served {shift : Shift S} {p q : MemoryPlant (Timed S)} {k n : Nat}
    (h : shift.worker.Tended shift.acked shift.batch p k (.served (n + 1)) q) : 1 ≤ k := by
  obtain ⟨counted, done⟩ := h.answer _ rfl
  rw [acked] at counted
  rw [batch] at done
  cases errand : shift.errand with
  | none =>
    rw [errand] at counted
    simp only [Option.elim_none] at counted
    omega
  | some e =>
    rw [errand] at done
    simp only [Option.elim_some, Errand.batch, List.length_cons] at done
    omega

theorem eq_nil_of_firstDue? {shifts : List (Shift S)} (h : firstDue? shifts = none) :
    shifts = [] := by
  cases shifts with
  | nil => rfl
  | cons s rest =>
    rw [firstDue?] at h
    split at h
    · cases h
    · split at h <;> cases h

theorem firstDue?_perm {shifts others : List (Shift S)} {shift : Shift S}
    (h : firstDue? shifts = some (shift, others)) : shifts.Perm (shift :: others) := by
  induction shifts generalizing shift others with
  | nil => cases h
  | cons s rest ih =>
    rw [firstDue?] at h
    cases first : firstDue? rest with
    | none =>
      obtain rfl := eq_nil_of_firstDue? first
      rw [first] at h
      cases h
      exact .refl _
    | some pair =>
      rw [first] at h
      simp only at h
      split at h
      · cases h
        exact .refl _
      · cases h
        exact ((ih first).cons s).trans (.swap ..)

theorem reschedule_perm (moment : Millis) (next : Shift S) (others : List (Shift S)) :
    (reschedule moment next others).Perm (next :: others) := by
  rw [reschedule]
  split
  · exact .refl _
  · exact List.perm_append_singleton next others

/-- Shifts of a runner's workers, which have different messages at hand. -/
structure Manned (r : Runner (Timed S)) (shifts : List (Shift S)) (p : MemoryPlant (Timed S)) :
    Prop where
  worker : ∀ s ∈ shifts, s.worker ∈ r.workers
  atHand : ∀ s ∈ shifts, s.worker.AtHand s.batch p
  apart : ((shifts.flatMap Shift.batch).map Delivery.id).Nodup

namespace Manned

variable {r : Runner (Timed S)} {I : Nat → MemoryPlant (Timed S) → Prop} {n : Nat}
  {shifts shifts' others : List (Shift S)} {shift : Shift S} {p : MemoryPlant (Timed S)}

theorem perm (h : Manned r shifts p) (order : shifts'.Perm shifts) : Manned r shifts' p where
  worker s mem := h.worker s (order.subset mem)
  atHand s mem := h.atHand s (order.subset mem)
  apart := ((order.flatMap_right Shift.batch).map Delivery.id).nodup_iff.2 h.apart

/-- What the services are does not matter. -/
theorem services (h : Manned r shifts p) (v : Timed S) :
    Manned r shifts { p with services := v } :=
  ⟨h.worker, fun s mem => ⟨(h.atHand s mem).claimed, (h.atHand s mem).live⟩, h.apart⟩

/-- **A turn among shifts** keeps what polls keep, and leaves alone what others have at hand. -/
theorem turn (keeps : r.Keeps I) (manned : Manned r (shift :: others) p) (h : I n p)
    (pollInterval : Millis) {standing : Standing S} {q : MemoryPlant (Timed S)}
    (turn : shift.worker.turn shift.errand p = (standing, q)) :
    ∃ k, I (n + k) q ∧ shift.worker.Tended shift.acked shift.batch p k standing q ∧
      Manned r (shift.next pollInterval standing :: others) q := by
  obtain ⟨worker, workers⟩ := List.forall_mem_cons.1 manned.worker
  obtain ⟨atHand, theirs⟩ := List.forall_mem_cons.1 manned.atHand
  have apart := manned.apart
  rw [List.flatMap_cons, List.map_append, List.nodup_append'] at apart
  obtain ⟨-, distinct, apart⟩ := apart
  obtain ⟨k, kept, tended⟩ := keeps.turn worker atHand h
  rw [turn] at kept tended
  -- what others have at hand was and is in flight, apart from what this worker had and has
  have stays : ∀ s ∈ others, ∀ d ∈ s.batch,
      Holds q.queue d ∧ d.id ∉ standing.batch.map Delivery.id := by
    intro s mem d there
    refine tended.others d ((theirs s mem).claimed.held d there) fun own => apart own ?_
    exact List.mem_map_of_mem (List.mem_flatMap.2 ⟨s, mem, there⟩)
  refine ⟨k, kept, tended, List.forall_mem_cons.2 ⟨?_, workers⟩,
    List.forall_mem_cons.2 ⟨?_, ?_⟩, ?_⟩
  · rw [Shift.worker_next]
    exact worker
  · rw [Shift.worker_next, Shift.batch_next]
    exact tended.atHand
  · intro s mem
    obtain ⟨⟨nodup, -, topic, partition⟩, live⟩ := theirs s mem
    exact ⟨⟨nodup, fun d there => (stays s mem d there).1, topic, partition⟩,
      fun d first => tended.live _ (live d first)⟩
  · rw [List.flatMap_cons, List.map_append, List.nodup_append', Shift.batch_next]
    refine ⟨tended.atHand.claimed.nodup, distinct, fun id own there => ?_⟩
    obtain ⟨d, mem, rfl⟩ := List.mem_map.1 there
    obtain ⟨s, among, there⟩ := List.mem_flatMap.1 mem
    exact (stays s among d there).2 own

end Manned

namespace Runner

variable {r : Runner (Timed S)} {I : Nat → MemoryPlant (Timed S) → Prop} {n : Nat}
  {p : MemoryPlant (Timed S)} {shifts : List (Shift S)}

/-- **Turns, one after another**, keep what polls keep. -/
theorem Keeps.workShifts (keeps : r.Keeps I) (deadline : Millis) (limit : Nat)
    (manned : Manned r shifts p) (h : I n p) :
    ∃ k, I (n + k) (r.workShifts deadline limit shifts p) := by
  induction limit generalizing shifts n p with
  | zero => exact ⟨0, h⟩
  | succ limit ih =>
    rw [Runner.workShifts]
    cases first : firstDue? shifts with
    | none => exact ⟨0, h⟩
    | some pair =>
      obtain ⟨shift, others⟩ := pair
      simp only
      split
      · exact ⟨0, h⟩
      · have manned := (manned.perm (firstDue?_perm first).symm).services
          (p.services.setClock shift.due)
        rcases turn : shift.worker.turn shift.errand
          { p with services := p.services.setClock shift.due } with ⟨standing, q⟩
        obtain ⟨k, kept, -, next⟩ :=
          manned.turn keeps (keeps.services n p _ h) r.pollInterval turn
        obtain ⟨k', rest⟩ := ih (next.perm (reschedule_perm ..)) kept
        rw [Nat.add_assoc] at rest
        exact ⟨k + k', rest⟩

/-- At first nobody has anything at hand. -/
theorem manned_start (r : Runner (Timed S)) (start : Millis) (p : MemoryPlant (Timed S)) :
    Manned r (r.workers.map fun w => ⟨start, w, none⟩) p where
  worker s mem := by
    obtain ⟨w, worker, rfl⟩ := List.mem_map.1 mem
    exact worker
  atHand s mem := by
    obtain ⟨w, -, rfl⟩ := List.mem_map.1 mem
    exact (Worker.Tended.served w 0 p).atHand
  apart := by
    have none : (r.workers.map fun w => (⟨start, w, none⟩ : Shift S)).flatMap Shift.batch = [] := by
      refine List.flatMap_eq_nil_iff.2 fun s mem => ?_
      obtain ⟨w, -, rfl⟩ := List.mem_map.1 mem
      rfl
    rw [none]
    exact List.nodup_nil

theorem Keeps.workFor (keeps : r.Keeps I) (duration : Millis) (h : I n p) :
    ∃ k, I (n + k) (r.workFor duration p) := by
  obtain ⟨k, worked⟩ := keeps.workShifts (p.services.elapsed + sleepTime duration)
    (r.turnsWithin (sleepTime duration) p) (manned_start r p.services.elapsed p) h
  exact ⟨k, keeps.services _ _ _ worked⟩

/-- **A run for a time** keeps what polls keep, if it is kept when messages in flight become
pending. -/
theorem Keeps.runFor (keeps : r.Keeps I) (duration : Millis)
    (recover : ∀ topic ∈ r.topics, ∀ p, I n p → I n { p with queue := (p.queue.recover topic).2 })
    (h : I n p) : ∃ k, I (n + k) (r.runFor duration p) := by
  have recovered : Action.Keeps (I n) (r.recover : Action (MemoryPlant (Timed S)) StoreError Nat) :=
    Action.Keeps.sum recover
  rw [Runner.runFor]
  split
  · exact keeps.workFor duration (recovered p h)
  · exact keeps.workFor duration h

end Runner

/-! ## What a run for a time comes to -/

section

variable {r : Runner (Timed S)} {p : MemoryPlant (Timed S)}

/-- **A run for a time** leads from a plant that can be reached to another, whenever it is
stopped. -/
theorem Reached.runFor {topologies : List (Topology (Timed S))} (h : Reached topologies p)
    (serves : r.Serves topologies) (duration : Millis) :
    Reached topologies (r.runFor duration p) := by
  have keeps : r.Keeps fun _ => Reached topologies :=
    ⟨fun _ _ v h => h.services v, fun w mem => Reached.keeps (serves.within w mem)⟩
  obtain ⟨-, reached⟩ :=
    keeps.runFor (n := 0) duration (fun topic _ p h => h.queue (.recover topic) trivial) h
  exact reached

/-- **A run for a time** is a sequence of entries in the account of every task. -/
theorem Runner.entries_runFor (own : ∀ w ∈ r.workers, w.stage.KeepsTask) (duration : Millis)
    (p : MemoryPlant (Timed S)) (id : TaskId) :
    Relation.ReflTransGen Account.Entry (p.account id) ((r.runFor duration p).account id) := by
  have keeps : r.Keeps fun _ q =>
      Relation.ReflTransGen Account.Entry (p.account id) (q.account id) :=
    ⟨fun _ _ _ so_far => so_far, fun w mem => Worker.keeps_entries (own w mem) _ id⟩
  have recovered : ∀ (topic : String) (q : MemoryPlant (Timed S)),
      ({ q with queue := (q.queue.recover topic).2 } : MemoryPlant (Timed S)).account id
        = q.account id :=
    fun topic q => congrArg (Account.mk · (q.progress id)) (MemoryQueue.out_recover ..)
  obtain ⟨-, entries⟩ := keeps.runFor (n := 0) duration
    (fun topic _ q so_far => (recovered topic q).symm ▸ so_far) .refl
  exact entries

/-- So the records of a task stay in balance. -/
theorem Runner.balanced_runFor (own : ∀ w ∈ r.workers, w.stage.KeepsTask) (duration : Millis)
    {id : TaskId} {n : Nat} {ahead : Prop} (h : (p.account id).Balanced n ahead) :
    ((r.runFor duration p).account id).Balanced n ahead :=
  h.entries (Runner.entries_runFor own duration p id)

/-- With stages of the library the records of every task stay in balance. -/
theorem Topology.OfLibrary.balanced_runFor {topologies : List (Topology (Timed S))}
    (library : ∀ t ∈ topologies, t.OfLibrary) (interval : Millis) (batch : Nat)
    (duration : Millis) {id : TaskId} {n : Nat} {ahead : Prop}
    (h : (p.account id).Balanced n ahead) :
    (((Runner.new topologies interval batch).runFor duration p).account id).Balanced n ahead := by
  refine Runner.balanced_runFor (fun w mem => ?_) duration h
  obtain ⟨topology, before, after, stages, -⟩ := Runner.mem_workers_new mem
  refine (library _ topology).keepsTask w.stage ?_
  rw [stages]
  exact List.mem_append_right _ List.mem_cons_self

/-- **A dropped task** stays at rest in a run for a time. -/
theorem Resting.runFor {id : TaskId} {info : TaskInfo} {notices : List Notification}
    (h : Resting id info notices p) (dropped : info.state = .dropped)
    (own : ∀ w ∈ r.workers, w.stage.KeepsTask) (duration : Millis) :
    Resting id info notices (r.runFor duration p) := by
  have keeps : r.Keeps fun _ => Resting id info notices :=
    ⟨fun _ _ _ h => h.congr rfl, fun w mem => Resting.keeps dropped (own w mem)⟩
  obtain ⟨-, rests⟩ := keeps.runFor (n := 0) duration (fun _ _ _ h => h.congr rfl) h
  exact rests

end

end Conveyor
