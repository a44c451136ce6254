import Conveyor.Proofs.Queue.History
import Conveyor.Proofs.Runner.Conservation

/-!
# The log of a plant

What happens to messages, in the order in which it happens: a message enters with the submission of
its task, or is visited by a stage, which may hand its record on in another message.  Messages of
one partition are visited in the order of their numbers, and whatever is published bears a higher
number than all that was published before.

* `Visit` and `Entry` — what is logged; `logAfter` is the log of a history, the oldest first.
* `Worker.visits_spec` — what the serving of a batch logs and makes of the messages.
* `Ordered` — that a log is in order, and what it says of the messages that are out.
* **`Operation.follows`** — what one operation adds.
* **`ordered_after`** — the log of every history is in order.
-/

namespace Conveyor

/-- That a stage has dealt with a message, and the message in which it handed the record on. -/
structure Visit where
  message : Publication
  onward : Option Publication
deriving DecidableEq

/-- What is logged. -/
inductive Entry where
  /-- A submission has published a message. -/
  | entered (m : Publication)
  | visited (v : Visit)
deriving DecidableEq

variable {V : Type} [Clock V]

namespace Worker

/-- The visit of a message whose turn comes, unless its task was dropped. -/
def visit (w : Worker V) (d : Delivery) (p : MemoryPlant V) : Option Visit :=
  match (w.examine d p).1 with
  | .ok (some _) =>
      some ⟨d.publication, (MemoryQueue.gained p.queue (w.handle d p).2.queue).head?⟩
  | _ => none

/-- The visits of the messages of a batch. -/
def visits (w : Worker V) : List Delivery → MemoryPlant V → List Visit
  | [], _ => []
  | d :: rest, p => (w.visit d p).toList ++ w.visits rest (w.handle d p).2

end Worker

/-- What an operation, done with a plant, adds to the log. -/
def Operation.entries (p : MemoryPlant V) : Operation V → List Entry
  | submit s task => (MemoryQueue.gained p.queue (s.submit task p).2.queue).map .entered
  | poll w => (w.visits (w.batchOf p) (w.claimed p)).map .visited
  | _ => []

/-- The log of a history of operations, the latest of which comes first, on a plant whose stores are
empty at first. -/
def logAfter (start : V) : List (Operation V) → List Entry
  | [] => []
  | op :: earlier => logAfter start earlier ++ op.entries (plantAfter start earlier)

theorem mem_logAfter {start : V} {history : List (Operation V)} {entry : Entry}
    (h : entry ∈ logAfter start history) : ∃ op ∈ history, ∃ p, entry ∈ op.entries p := by
  induction history with
  | nil => cases h
  | cons op earlier ih =>
    rcases List.mem_append.1 h with before | now
    · obtain ⟨other, mem, there⟩ := ih before
      exact ⟨other, List.mem_cons_of_mem _ mem, there⟩
    · exact ⟨op, List.mem_cons_self .., _, now⟩

/-! ## The visits of a batch -/

namespace Worker

section

variable {V : Type}

/-- A message is where a worker hands records on. -/
def Puts (w : Worker V) (m : Publication) : Prop :=
  w.next = some m.topic ∧ m.partition = w.topology.partitionFor m.envelope

/-- What the serving of a batch logs and makes of a plant. -/
structure Visits (w : Worker V) (batch : List Delivery) (p p' : MemoryPlant V)
    (visits : List Visit) : Prop where
  /-- What stands in the queue stood there before, outside the batch, or is new. -/
  messages : ∀ s ∈ p'.queue.messages,
    (s ∈ p.queue.messages ∧ s.id ∉ batch.map Delivery.id) ∨ p.queue.issued < s.id.value
  issued : p.queue.issued ≤ p'.queue.issued
  sublist : (visits.map Visit.message).Sublist (batch.map Delivery.publication)
  onward : ∀ v ∈ visits, ∀ m, v.onward = some m →
    (p.queue.issued : Int) < m.id.value ∧ m.id.value ≤ p'.queue.issued ∧ w.Puts m ∧
      ∃ services, (w.stage.run v.message.envelope services).1 = .forward m.envelope
  rising : visits.Pairwise fun a b => ∀ m n, a.onward = some m → b.onward = some n →
    m.id.value < n.id.value

namespace Visits

variable {w : Worker V} {batch batch' : List Delivery} {p p' p'' : MemoryPlant V}
  {visits visits' : List Visit}

theorem nil (w : Worker V) (p : MemoryPlant V) : Visits w [] p p [] where
  messages _ mem := .inl ⟨mem, List.not_mem_nil⟩
  issued := Nat.le_refl _
  sublist := .slnil
  onward _ mem := absurd mem List.not_mem_nil
  rising := .nil

theorem append (h : Visits w batch p p' visits) (h' : Visits w batch' p' p'' visits') :
    Visits w (batch ++ batch') p p'' (visits ++ visits') where
  messages s mem := by
    have issued := h.issued
    rcases h'.messages s mem with ⟨between, apart'⟩ | fresh
    · rcases h.messages s between with ⟨before, apart⟩ | fresh
      · left
        rw [List.map_append, List.mem_append, not_or]
        exact ⟨before, apart, apart'⟩
      · exact .inr fresh
    · right
      omega
  issued := Nat.le_trans h.issued h'.issued
  sublist := by
    rw [List.map_append, List.map_append]
    exact h.sublist.append h'.sublist
  onward v mem m onward := by
    have issued := h.issued
    have issued' := h'.issued
    rcases List.mem_append.1 mem with mem | mem
    · obtain ⟨above, below, rest⟩ := h.onward v mem m onward
      exact ⟨above, by omega, rest⟩
    · obtain ⟨above, below, rest⟩ := h'.onward v mem m onward
      exact ⟨by omega, below, rest⟩
  rising := by
    refine List.pairwise_append.2 ⟨h.rising, h'.rising, fun a mem b mem' m n first second => ?_⟩
    have below := (h.onward a mem m first).2.1
    have above := (h'.onward b mem' n second).1
    omega

end Visits

end

/-- **The visit of one message.** -/
theorem visit_spec (w : Worker V) {d : Delivery} {p : MemoryPlant V}
    (given : d.id.value ≤ p.queue.issued) :
    Visits w [d] p (w.handle d p).2 (w.visit d p).toList := by
  obtain ⟨p', run, handles⟩ := w.handle_spec d p
  have acked : ∀ q : MemoryQueue, ∀ s ∈ (q.ack d.id).messages,
      s ∈ q.messages ∧ s.id ∉ [d].map Delivery.id := by
    intro q s mem
    simpa using mem
  cases handles with
  | void known dropped =>
    have none : w.visit d p = none := by
      rw [visit, examine_of_dropped known dropped]
    rw [none, run]
    exact ⟨fun s mem => .inl (acked p.queue s mem), Nat.le_refl _, List.nil_sublist _,
      fun _ mem => absurd mem List.not_mem_nil, .nil⟩
  | @onward topic e services live out next =>
    obtain ⟨m, new⟩ : ∃ m : Publication,
      m = ⟨⟨p.queue.issued + 1⟩, topic, w.topology.partitionFor e, e⟩ := ⟨_, rfl⟩
    have value : m.id.value = p.queue.issued + 1 := by rw [new]
    have gained : MemoryQueue.gained p.queue
        ((p.queue.publish topic (w.topology.partitionFor e) e).2.ack d.id) = [m] := by
      have apart : m.id ≠ d.id := fun same => by
        rw [← same] at given
        omega
      rw [MemoryQueue.gained_ack, MemoryQueue.gained_publish, ← new]
      exact List.filter_cons_of_pos (by simpa using apart)
    have visit : w.visit d p = some ⟨d.publication, some m⟩ := by
      rw [visit, examine_of_live live, run]
      exact congrArg (fun l => some (Visit.mk d.publication l)) (congrArg List.head? gained)
    rw [visit, run]
    refine ⟨fun s mem => ?_, Nat.le_succ _, .refl _, fun v mem n onward => ?_,
      List.pairwise_singleton _ _⟩
    · obtain ⟨mem, apart⟩ := acked _ s mem
      rcases List.mem_append.1 mem with before | last
      · exact .inl ⟨before, apart⟩
      · obtain rfl := List.mem_singleton.1 last
        exact .inr (Int.lt_succ _)
    · obtain rfl := List.mem_singleton.1 mem
      obtain rfl : m = n := Option.some.inj onward
      refine ⟨by omega, by rw [value]; exact Int.le_refl _, ?_, p.services, ?_⟩
      · rw [new]
        simp only [Puts, next, and_self]
      · rw [new]
        exact congrArg Prod.fst out
  | ended live out leaves =>
    have gained : MemoryQueue.gained p.queue (p.queue.ack d.id) = [] := by
      rw [MemoryQueue.gained_ack, MemoryQueue.gained_self]
      rfl
    have visit : w.visit d p = some ⟨d.publication, none⟩ := by
      rw [visit, examine_of_live live, run]
      exact congrArg (fun l => some (Visit.mk d.publication l)) (congrArg List.head? gained)
    rw [visit, run]
    refine ⟨fun s mem => .inl (acked p.queue s mem), Nat.le_refl _, .refl _,
      fun v mem n onward => ?_, List.pairwise_singleton _ _⟩
    obtain rfl := List.mem_singleton.1 mem
    cases onward

/-- **The visits of a batch**, whose messages were published already. -/
theorem visits_spec (w : Worker V) (batch : List Delivery) {p : MemoryPlant V}
    (given : ∀ d ∈ batch, d.id.value ≤ p.queue.issued) :
    Visits w batch p (w.serve batch p).2 (w.visits batch p) := by
  induction batch generalizing p with
  | nil => exact .nil w p
  | cons d rest ih =>
    have first := w.visit_spec (given d (List.mem_cons_self ..))
    have issued := first.issued
    have later : ∀ d' ∈ rest, d'.id.value ≤ (w.handle d p).2.queue.issued := by
      intro d' mem
      have := given d' (List.mem_cons_of_mem _ mem)
      omega
    exact first.append (ih later)

/-- **The visits of a poll.** -/
theorem visits_poll (w : Worker V) (p : MemoryPlant V) :
    Visits w (w.batchOf p) (w.claimed p) (w.poll p).2 (w.visits (w.batchOf p) (w.claimed p)) := by
  refine w.visits_spec (w.batchOf p) fun d mem => ?_
  obtain ⟨m, there, -, rfl⟩ := (Holds.of_claim mem).1
  exact (w.claimed p).queue.given _ (List.mem_map_of_mem there)

/-- What a poll visits, it has claimed. -/
theorem taken_of_visit (w : Worker V) {p : MemoryPlant V} {v : Visit}
    (h : v ∈ w.visits (w.batchOf p) (w.claimed p)) :
    ∃ s ∈ MemoryQueue.taken w.topic w.partition w.batch p.queue, s.publication = v.message := by
  obtain ⟨d, there, same⟩ :=
    List.mem_map.1 ((w.visits_poll p).sublist.subset (List.mem_map_of_mem h))
  rw [batchOf, MemoryQueue.batch_eq] at there
  obtain ⟨s, taken, rfl⟩ := List.mem_map.1 there
  exact ⟨s, taken, same⟩

/-- What stands in the queue after a poll was not claimed, or is new. -/
theorem messages_poll (w : Worker V) {p : MemoryPlant V} {s : StoredMessage}
    (mem : s ∈ (w.poll p).2.queue.messages) :
    (s ∈ p.queue.messages ∧ s ∉ MemoryQueue.taken w.topic w.partition w.batch p.queue) ∨
      (p.queue.issued : Int) < s.id.value := by
  rcases (w.visits_poll p).messages s mem with ⟨claimed, apart⟩ | fresh
  · refine .inl ⟨(MemoryQueue.inFlight_claim claimed).resolve_right apart, fun took => apart ?_⟩
    rw [batchOf, MemoryQueue.batch_eq, List.map_map]
    exact List.mem_map.2 ⟨s, took, rfl⟩
  · exact .inr fresh

/-- Messages are visited in the order of their numbers. -/
theorem rising_visits (w : Worker V) (p : MemoryPlant V) :
    (w.visits (w.batchOf p) (w.claimed p)).Pairwise
      fun v u => v.message.id.value < u.message.id.value := by
  have batch : ((w.batchOf p).map Delivery.publication).Pairwise
      fun m n => m.id.value < n.id.value := by
    rw [batchOf, MemoryQueue.batch_eq, List.map_map]
    exact List.pairwise_map.2 (MemoryQueue.rising_taken ..)
  have visited := batch.sublist (w.visits_poll p).sublist
  rwa [List.pairwise_map] at visited

end Worker

/-! ## Logs in order -/

namespace Entry

/-- The numbers of which an entry speaks. -/
def ids : Entry → List MessageId
  | entered m => [m.id]
  | visited v => v.message.id :: (v.onward.map Publication.id).toList

/-- Two entries, the one before the other, are in order: numbers are given in order, and the messages
of a partition are visited in the order of their numbers. -/
def Precedes : Entry → Entry → Prop
  | entered m, entered n => m.id.value < n.id.value
  | visited v, visited u =>
      (v.message.topic = u.message.topic → v.message.partition = u.message.partition →
        v.message.id.value < u.message.id.value) ∧
      ∀ m n, v.onward = some m → u.onward = some n → m.id.value < n.id.value
  | _, _ => True

end Entry

/-- A log is in order, and what it speaks of is over: all numbers in it were given, nothing is in
flight, and what is out waits behind what was visited on the same partition. -/
structure Ordered (log : List Entry) (q : MemoryQueue) : Prop where
  landed : ∀ s ∈ q.messages, s.inFlight = false
  given : ∀ entry ∈ log, ∀ id ∈ entry.ids, id.value ≤ q.issued
  behind : ∀ v, Entry.visited v ∈ log → ∀ s ∈ q.messages, s.topic = v.message.topic →
    s.partition = v.message.partition → v.message.id.value < s.id.value
  rising : log.Pairwise Entry.Precedes

/-- What is added to a log as a queue goes over into another: numbers are given from the first one
that is free, messages are visited that stood in the queue, and none before another that waited on
the same partition in front of it. -/
structure Follows (q : MemoryQueue) (entries : List Entry) (q' : MemoryQueue) : Prop where
  landed : ∀ s ∈ q'.messages, s.inFlight = false
  messages : ∀ s ∈ q'.messages, s ∈ q.messages ∨ (q.issued : Int) < s.id.value
  issued : q.issued ≤ q'.issued
  entered : ∀ m, Entry.entered m ∈ entries →
    (q.issued : Int) < m.id.value ∧ m.id.value ≤ q'.issued
  visited : ∀ v, Entry.visited v ∈ entries → v.message ∈ q.standingOf ∧
    ∀ m, v.onward = some m → (q.issued : Int) < m.id.value ∧ m.id.value ≤ q'.issued
  lowest : ∀ v, Entry.visited v ∈ entries → ∀ s ∈ q'.messages, s.topic = v.message.topic →
    s.partition = v.message.partition → v.message.id.value < s.id.value
  rising : entries.Pairwise Entry.Precedes

namespace Ordered

variable {log entries : List Entry} {q q' : MemoryQueue}

/-- **What follows a log that is in order** keeps it so. -/
theorem append (h : Ordered log q) (follows : Follows q entries q') : Ordered (log ++ entries) q' where
  landed := follows.landed
  given entry mem id there := by
    have issued := follows.issued
    rcases List.mem_append.1 mem with mem | mem
    · have := h.given entry mem id there
      omega
    · cases entry with
      | entered m =>
        obtain rfl := List.mem_singleton.1 there
        exact (follows.entered m mem).2
      | visited v =>
        obtain ⟨stood, onward⟩ := follows.visited v mem
        rcases List.mem_cons.1 there with rfl | there
        · have := MemoryQueue.le_issued_of_standing stood
          omega
        · obtain ⟨m, out, rfl⟩ := Option.map_eq_some_iff.1 (Option.mem_toList.1 there)
          exact (onward m out).2
  behind v mem s there topic partition := by
    rcases List.mem_append.1 mem with mem | mem
    · rcases follows.messages s there with before | fresh
      · exact h.behind v mem s before topic partition
      · have := h.given _ mem v.message.id (List.mem_cons_self ..)
        omega
    · exact follows.lowest v mem s there topic partition
  rising := by
    refine List.pairwise_append.2 ⟨h.rising, follows.rising, fun a mem b mem' => ?_⟩
    cases a with
    | entered m =>
      cases b with
      | entered n =>
        have given := h.given _ mem m.id (List.mem_singleton_self _)
        have fresh := (follows.entered n mem').1
        show m.id.value < n.id.value
        omega
      | visited u => trivial
    | visited v =>
      cases b with
      | entered n => trivial
      | visited u =>
        obtain ⟨stood, onward⟩ := follows.visited u mem'
        refine ⟨fun topic partition => ?_, fun m n out out' => ?_⟩
        · obtain ⟨s, there, same⟩ := List.mem_map.1 stood
          rw [← same] at topic partition ⊢
          exact h.behind v mem s there topic.symm partition.symm
        · have there : m.id ∈ (Entry.visited v).ids := by
            simp [Entry.ids, out]
          have given := h.given _ mem m.id there
          have fresh := (onward n out').1
          omega

end Ordered

/-! ## What operations add -/

namespace Follows

variable {q q' : MemoryQueue}

/-- An operation that leaves the queue alone adds nothing. -/
theorem quiet (landed : ∀ s ∈ q.messages, s.inFlight = false) : Follows q [] q where
  landed := landed
  messages _ mem := .inl mem
  issued := Nat.le_refl _
  entered _ mem := absurd mem List.not_mem_nil
  visited _ mem := absurd mem List.not_mem_nil
  lowest _ mem := absurd mem List.not_mem_nil
  rising := .nil

end Follows

section

variable {p : MemoryPlant V} (landed : ∀ s ∈ p.queue.messages, s.inFlight = false)

include landed

/-- **A submission** adds the messages that it publishes. -/
theorem follows_submit (s : Submitter V) (task : Task) :
    Follows p.queue ((Operation.submit s task).entries p) (s.submit task p).2.queue := by
  have grown : p.queue.issued ≤ (s.submit task p).2.queue.issued ∧
      ∀ m ∈ (s.submit task p).2.queue.messages, m ∈ p.queue.messages ∨
        ((p.queue.issued : Int) < m.id.value ∧ m.inFlight = false) := by
    cases found : s.topologies.get? task.topology with
    | none =>
      rw [Submitter.submit_of_unknown found]
      exact ⟨Nat.le_refl _, fun m mem => .inl mem⟩
    | some topology =>
      obtain ⟨records, queue⟩ := s.publishes_submit found p
      rw [queue, issued_publishing]
      refine ⟨Nat.le_add_right .., fun m mem => ?_⟩
      exact (mem_publishing topology task records p.queue mem).imp_right
        fun ⟨fresh, _, _, waits⟩ => ⟨fresh, waits⟩
  obtain ⟨issued, messages⟩ := grown
  have only : ∀ entry ∈ (Operation.submit s task).entries p, ∃ m,
      Entry.entered m = entry ∧ m ∈ MemoryQueue.gained p.queue (s.submit task p).2.queue := by
    intro entry mem
    obtain ⟨m, mem, same⟩ := List.mem_map.1 mem
    exact ⟨m, same, mem⟩
  constructor
  · intro m mem
    rcases messages m mem with before | ⟨-, waits⟩
    · exact landed m before
    · exact waits
  · exact fun m mem => (messages m mem).imp_right And.left
  · exact issued
  · intro m mem
    obtain ⟨n, same, gained⟩ := only _ mem
    obtain rfl : n = m := Entry.entered.inj same
    exact ⟨of_decide_eq_true (List.mem_filter.1 gained).2,
      MemoryQueue.le_issued_of_standing (List.mem_of_mem_filter gained)⟩
  · intro v mem
    obtain ⟨n, same, -⟩ := only _ mem
    cases same
  · intro v mem
    obtain ⟨n, same, -⟩ := only _ mem
    cases same
  · have rising : (s.submit task p).2.queue.standingOf.Pairwise
        fun m n => m.id.value < n.id.value := List.pairwise_map.2 (MemoryQueue.rising_messages _)
    exact List.pairwise_map.2 (rising.sublist List.filter_sublist)

/-- **A poll** adds the visits of the oldest messages of its partition. -/
theorem follows_poll (w : Worker V) :
    Follows p.queue ((Operation.poll w).entries p) (w.poll p).2.queue := by
  have visits := w.visits_poll p
  have only : ∀ v, Entry.visited v ∈ (Operation.poll w).entries p →
      v ∈ w.visits (w.batchOf p) (w.claimed p) := by
    intro v mem
    obtain ⟨u, there, same⟩ := List.mem_map.1 mem
    rwa [← Entry.visited.inj same]
  constructor
  · intro s mem
    by_contra flying
    exact flying (landed s (w.inFlight_poll mem (by simpa using flying)))
  · exact fun s mem => (w.messages_poll mem).imp_left And.left
  · exact visits.issued
  · intro m mem
    obtain ⟨u, -, same⟩ := List.mem_map.1 mem
    cases same
  · intro v mem
    obtain ⟨s, taken, same⟩ := w.taken_of_visit (only v mem)
    refine ⟨?_, fun m onward => ?_⟩
    · rw [← same]
      exact List.mem_map_of_mem (MemoryQueue.mem_of_taken taken).1
    · obtain ⟨above, below, -⟩ := visits.onward v (only v mem) m onward
      exact ⟨above, below⟩
  · intro v mem s there topic partition
    obtain ⟨s₀, taken, same⟩ := w.taken_of_visit (only v mem)
    rw [← same] at topic partition ⊢
    rcases w.messages_poll there with ⟨before, left⟩ | fresh
    · -- a message of the same partition that was not claimed waited further behind
      have place := (MemoryQueue.mem_of_taken taken).2
      have waits : s.isPendingOn w.topic w.partition = true := by
        simp only [StoredMessage.isPendingOn, Bool.and_eq_true, decide_eq_true_eq] at place ⊢
        exact ⟨⟨by rw [landed s before]; rfl, partition.trans place.1.2⟩, topic.trans place.2⟩
      exact MemoryQueue.lt_of_not_taken taken before waits left
    · have old := p.queue.given _ (List.mem_map_of_mem (MemoryQueue.mem_of_taken taken).1)
      exact Int.lt_of_le_of_lt old fresh
  · refine List.pairwise_map.2 (((w.rising_visits p).and visits.rising).imp ?_)
    rintro v u ⟨less, rising⟩
    exact ⟨fun _ _ => less, rising⟩

/-- **What an operation adds** to the log, and what it makes of the queue. -/
theorem Operation.follows (op : Operation V) : Follows p.queue (op.entries p) (op.run p).queue := by
  cases op with
  | submit s task => exact follows_submit landed s task
  | poll w => exact follows_poll landed w
  | dropTask id reason => exact .quiet landed
  | failTask id reason => exact .quiet landed
  | fatal id reason => exact .quiet landed
  | sweep registry =>
    have same : (Monitor.sweep registry p).2.queue = p.queue :=
      sweep_induction (I := fun q => q.queue = p.queue) registry (fun _ _ h => h)
        (fun _ _ _ _ h => h) rfl
    rw [run, same]
    exact .quiet landed
  | elapse change => exact .quiet landed

end

/-- **The log of every history is in order.** -/
theorem ordered_after (start : V) (history : List (Operation V)) :
    Ordered (logAfter start history) (plantAfter start history).queue := by
  induction history with
  | nil =>
    exact ⟨fun _ mem => absurd mem List.not_mem_nil, fun _ mem => absurd mem List.not_mem_nil,
      fun _ mem => absurd mem List.not_mem_nil, .nil⟩
  | cons op earlier ih => exact ih.append (op.follows ih.landed)

end Conveyor
