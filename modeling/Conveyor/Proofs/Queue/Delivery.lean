import Conveyor.Proofs.Queue.History
import Mathlib.Logic.ExistsUnique

/-!
# What a queue delivers

Since a queue is what its history says, so is what it delivers.

* `MemoryQueue.Condition` — a message that was published is pending, in flight or acknowledged.
* `MemoryQueue.ClaimLaw`, `MemoryQueue.DeliveryLaw` — what a claim, and what every call does.
* **`MemoryQueue.delivery_law`** — the law holds after every history of calls.
-/

namespace Conveyor

namespace MemoryQueue

/-! ## The law of delivery -/

/-- Whether a message is pending. -/
def waits (q : MemoryQueue) (m : Publication) : Bool :=
  q.messages.any fun s => s.publication = m && !s.inFlight

/-- Whether a message is in flight. -/
def flies (q : MemoryQueue) (m : Publication) : Bool :=
  q.messages.any fun s => s.publication = m && s.inFlight

/-- The conditions of a message that was published. -/
inductive Condition where
  | pending
  | inFlight
  | acknowledged

/-- Whether a message is in a condition, after some events. -/
def Condition.Holds (events : List Event) (q : MemoryQueue) (m : Publication) : Condition → Prop
  | pending => q.waits m = true
  | inFlight => q.flies m = true
  | acknowledged => MemoryQueue.acknowledged events m = true

/-- What a claim delivers: of the messages that wait on its partition those with the lowest numbers,
in their order, as many as are asked for or as there are.  These are in flight then, and no others
that were not. -/
structure ClaimLaw (events : List Event) (q : MemoryQueue) (topic : String) (partition limit : Nat)
    (batch : List Delivery) (q' : MemoryQueue) : Prop where
  size : batch.length = min limit ((publications events).countP fun m =>
    q.waits m && (m.topic = topic && m.partition = partition))
  ordered : batch.Pairwise fun a b => a.id.value < b.id.value
  waiting : ∀ d ∈ batch, d.publication ∈ publications events ∧ q.waits d.publication = true ∧
    d.topic = topic ∧ d.partition = partition
  lowest : ∀ m ∈ publications events, q.waits m = true → m.topic = topic →
    m.partition = partition →
      (∃ d ∈ batch, d.publication = m) ∨ ∀ d ∈ batch, d.id.value < m.id.value
  /-- The claims that have delivered the message, this one included, modulo `2 ^ 32`. -/
  attempts : ∀ d ∈ batch, (d.attempts : Nat) = (MemoryQueue.attempts events d.id + 1) % 4294967296
  flight : ∀ m ∈ publications events,
    (q'.flies m = true ↔ q.flies m = true ∨ ∃ d ∈ batch, d.publication = m) ∧
      (q'.waits m = true ↔ q.waits m = true ∧ ¬ ∃ d ∈ batch, d.publication = m)

/-- What the calls of a queue do, after some events. -/
structure DeliveryLaw (events : List Event) (q : MemoryQueue) : Prop where
  runs : ∀ c : Call, c.run q = (.ok (c.event q), c.after q)
  ordered : (publications events).Pairwise fun a b => a.id.value < b.id.value
  condition : ∀ m ∈ publications events, ∃! c : Condition, c.Holds events q m
  /-- Nothing stands in the queue that was not published. -/
  published : ∀ s ∈ q.messages, s.publication ∈ publications events
  claim : ∀ topic partition limit, ClaimLaw events q topic partition limit
    (q.claim topic partition limit).1 (q.claim topic partition limit).2
  publish : ∀ topic partition e, (q.publish topic partition e).2.waits
    ⟨(q.publish topic partition e).1, topic, partition, e⟩ = true
  release : ∀ id, ∀ m ∈ publications events,
    (q.release id).waits m = (q.waits m || (q.flies m && m.id = id)) ∧
      (q.release id).flies m = (q.flies m && !decide (m.id = id))
  /-- What was delivered before has been released or recovered in between. -/
  again : ∀ topic partition limit, ∀ d ∈ (q.claim topic partition limit).1,
    ∀ between ev before, events = between ++ ev :: before → ev.delivers d.id = true →
      .released d.id ∈ between ∨ ∃ count, .recovered d.topic count ∈ between
  gone : ∀ m ∈ publications events, acknowledged events m = true →
    ∀ topic partition limit, ∀ d ∈ (q.claim topic partition limit).1, d.id ≠ m.id
  recover : ∀ topic,
    (q.recover topic).1 = (publications events).countP (fun m => q.flies m && m.topic = topic) ∧
      (∀ m ∈ publications events,
        (q.recover topic).2.waits m = (q.waits m || (q.flies m && m.topic = topic)) ∧
          (q.recover topic).2.flies m = (q.flies m && !decide (m.topic = topic))) ∧
      ∀ s : StoredMessage, s.topic ≠ topic → (s ∈ (q.recover topic).2.messages ↔ s ∈ q.messages)
  outstanding : ∀ topic,
    q.outstanding topic
        + (publications events).countP (fun m => acknowledged events m && m.topic = topic)
      = (publications events).countP fun m => m.topic = topic

namespace Recounts

variable {ev : Event} {events : List Event} {q : MemoryQueue} {m : Publication}
  {topic : String} {partition limit : Nat}

/-- A message with a property stands in the queue if it is not acknowledged and its history gives it
the property. -/
theorem any_messages (h : Recounts events q) (mem : m ∈ publications events)
    (property : StoredMessage → Bool) :
    (q.messages.any fun s => s.publication = m && property s)
      = (!acknowledged events m && property (stored events m)) := by
  rw [Bool.eq_iff_iff, List.any_eq_true]
  constructor
  · rintro ⟨s, here, holds⟩
    obtain ⟨same, has⟩ := (Bool.and_eq_true _ _).mp holds
    obtain ⟨n, there, open_, rfl⟩ := h.mem_messages.1 here
    obtain rfl : n = m := of_decide_eq_true same
    rw [open_, has]
    rfl
  · intro holds
    obtain ⟨open_, has⟩ := (Bool.and_eq_true _ _).mp holds
    refine ⟨stored events m, h.mem_messages.2 ⟨m, mem, by simpa using open_, rfl⟩, ?_⟩
    rw [has, Bool.and_true]
    exact decide_eq_true rfl

theorem waits_eq (h : Recounts events q) (mem : m ∈ publications events) :
    q.waits m = (!acknowledged events m && !flying m events) :=
  h.any_messages mem fun s => !s.inFlight

theorem flies_eq (h : Recounts events q) (mem : m ∈ publications events) :
    q.flies m = (!acknowledged events m && flying m events) :=
  h.any_messages mem StoredMessage.inFlight

/-- What is counted of the messages in the queue is counted of those that were published and not
acknowledged since. -/
theorem countP_messages (h : Recounts events q) (property : StoredMessage → Bool) :
    q.messages.countP property
      = (publications events).countP fun m =>
          property (stored events m) && !acknowledged events m := by
  rw [h.messages, standing, List.countP_map, List.countP_filter]
  rfl

theorem condition (h : Recounts events q) (mem : m ∈ publications events) :
    ∃! c : Condition, c.Holds events q m := by
  have waits := h.waits_eq mem
  have flies := h.flies_eq mem
  cases acked : acknowledged events m with
  | true =>
    refine ⟨.acknowledged, acked, fun c holds => ?_⟩
    cases c <;> simp_all [Condition.Holds]
  | false =>
    cases flight : flying m events with
    | true =>
      refine ⟨.inFlight, by simp_all [Condition.Holds], fun c holds => ?_⟩
      cases c <;> simp_all [Condition.Holds]
    | false =>
      refine ⟨.pending, by simp_all [Condition.Holds], fun c holds => ?_⟩
      cases c <;> simp_all [Condition.Holds]

/-- The condition of a message after an event that neither publishes nor acknowledges one. -/
theorem waits_of_quiet (after : Recounts (ev :: events) q) (quiet : ev.publication? = none)
    (keeps : ∀ id, ev.acks id = false) (mem : m ∈ publications events) :
    q.flies m = (!acknowledged events m && flying m (ev :: events)) ∧
      q.waits m = (!acknowledged events m && !flying m (ev :: events)) := by
  have mem' : m ∈ publications (ev :: events) := by
    rw [publications_of_none quiet]
    exact mem
  rw [after.flies_eq mem', after.waits_eq mem', acknowledged_of_quiet quiet keeps]
  exact ⟨rfl, rfl⟩

theorem claimLaw (h : Recounts events q) (topic : String) (partition limit : Nat) :
    ClaimLaw events q topic partition limit (q.claim topic partition limit).1
      (q.claim topic partition limit).2 := by
  have sorted : (q.messages.filter (StoredMessage.isPendingOn topic partition)).Pairwise
      fun a b => a.id.value < b.id.value := (List.pairwise_map.1 q.numbered).filter _
  constructor
  · rw [batch_eq, List.length_map, taken, List.length_take, ← List.countP_eq_length_filter,
      h.countP_messages]
    refine congrArg (min limit) (List.countP_congr fun m mem => ?_)
    rw [h.waits_eq mem]
    simp only [StoredMessage.isPendingOn, stored, Bool.and_eq_true]
    tauto
  · rw [batch_eq, List.pairwise_map]
    exact sorted.sublist (List.take_sublist _ _)
  · intro d here
    obtain ⟨m, mem, open_, took, rfl⟩ := h.of_delivery here
    obtain ⟨grounded, onTopic, onPartition⟩ :
        flying m events = false ∧ m.topic = topic ∧ m.partition = partition := pending_of_taken took
    refine ⟨mem, ?_, onTopic, onPartition⟩
    rw [show (stored events m).launched.delivery.publication = m from rfl, h.waits_eq mem, open_,
      grounded]
    rfl
  · intro m mem waits onTopic onPartition
    rw [h.waits_eq mem] at waits
    obtain ⟨open_, grounded⟩ := (Bool.and_eq_true _ _).mp waits
    have wanted : stored events m
        ∈ q.messages.filter (StoredMessage.isPendingOn topic partition) := by
      refine List.mem_filter.2 ⟨h.mem_messages.2 ⟨m, mem, by simpa using open_, rfl⟩, ?_⟩
      simp [StoredMessage.isPendingOn, stored, onTopic, onPartition, grounded]
    -- it is among the first, which are taken, or behind them
    rw [← List.take_append_drop limit (q.messages.filter _)] at sorted wanted
    rcases List.mem_append.1 wanted with took | left
    · exact .inl ((h.delivers_iff topic partition limit mem).2.2 took)
    · right
      intro d here
      obtain ⟨n, -, -, took, rfl⟩ := h.of_delivery here
      exact (List.pairwise_append.1 sorted).2.2 _ took _ left
  · intro d here
    obtain ⟨m, -, -, -, rfl⟩ := h.of_delivery here
    exact Nat.mod_add_mod _ _ _
  · intro m mem
    obtain ⟨flies, waits⟩ := (h.claim topic partition limit).waits_of_quiet rfl (fun _ => rfl) mem
    have flight : flying m ((Call.claim topic partition limit).event q :: events)
        = (((Call.claim topic partition limit).event q).delivers m.id || flying m events) := rfl
    obtain ⟨delivers, delivered⟩ := h.delivers_iff topic partition limit mem
    have open_ : ((Call.claim topic partition limit).event q).delivers m.id = true →
        acknowledged events m = false := fun delivered =>
      h.not_acknowledged mem (mem_of_taken (delivers.1 delivered)).1
    rw [flies, waits, h.flies_eq mem, h.waits_eq mem, delivered, ← delivers, flight]
    revert open_
    cases acknowledged events m <;>
      cases ((Call.claim topic partition limit).event q).delivers m.id <;>
      cases flying m events <;> simp

theorem again (h : Recounts events q) {d : Delivery}
    (here : d ∈ (q.claim topic partition limit).1) {between before : List Event}
    (split : events = between ++ ev :: before) (delivers : ev.delivers d.id = true) :
    .released d.id ∈ between ∨ ∃ count, .recovered d.topic count ∈ between := by
  obtain ⟨m, -, -, took, rfl⟩ := h.of_delivery here
  have grounded : flying m events = false := (pending_of_taken took).1
  -- as long as nothing brings it back, the message is in flight
  have stays : ∀ between : List Event, (∀ ev ∈ between, ev.lands m = false) →
      flying m (between ++ ev :: before) = true := by
    intro between
    induction between with
    | nil =>
      intro _
      rw [List.nil_append, flying, show ev.delivers m.id = true from delivers]
      rfl
    | cons first rest ih =>
      intro none
      rw [List.cons_append, flying, none first (List.mem_cons_self ..),
        ih fun ev mem => none ev (List.mem_cons_of_mem _ mem)]
      simp
  have back : ∃ ev ∈ between, ev.lands m = true := by
    by_contra none
    push Not at none
    rw [split, stays between fun ev mem => by simpa using none ev mem] at grounded
    cases grounded
  obtain ⟨landing, mem, lands⟩ := back
  cases landing with
  | released id =>
    obtain rfl : m.id = id := of_decide_eq_true lands
    exact .inl mem
  | recovered topic count =>
    obtain rfl : m.topic = topic := of_decide_eq_true lands
    exact .inr ⟨count, mem⟩
  | _ => cases lands

/-- **What comes back** is pending, and no other message changes its condition. -/
theorem waits_of_landing (h : Recounts events q) {q' : MemoryQueue}
    (after : Recounts (ev :: events) q') (quiet : ev.publication? = none)
    (keeps : ∀ id, ev.acks id = false) (none : ∀ id, ev.delivers id = false)
    (mem : m ∈ publications events) :
    q'.waits m = (q.waits m || (q.flies m && ev.lands m)) ∧
      q'.flies m = (q.flies m && !ev.lands m) := by
  obtain ⟨flies, waits⟩ := after.waits_of_quiet quiet keeps mem
  have flight : flying m (ev :: events) = (!ev.lands m && flying m events) := by
    rw [flying, none, Bool.false_or]
  rw [flies, waits, flight, h.flies_eq mem, h.waits_eq mem]
  cases acknowledged events m <;> cases flying m events <;> cases ev.lands m <;> exact ⟨rfl, rfl⟩

theorem recovers (h : Recounts events q) (topic : String) :
    (q.recover topic).1 = (publications events).countP (fun m => q.flies m && m.topic = topic) ∧
      (∀ m ∈ publications events,
        (q.recover topic).2.waits m = (q.waits m || (q.flies m && m.topic = topic)) ∧
          (q.recover topic).2.flies m = (q.flies m && !decide (m.topic = topic))) ∧
      ∀ s : StoredMessage, s.topic ≠ topic →
        (s ∈ (q.recover topic).2.messages ↔ s ∈ q.messages) := by
  refine ⟨?_, fun m mem => ?_, fun s apart => ?_⟩
  · show q.messages.countP _ = _
    rw [h.countP_messages]
    refine List.countP_congr fun m mem => ?_
    rw [h.flies_eq mem]
    simp only [stored, Bool.and_eq_true]
    tauto
  · exact h.waits_of_landing (h.call (.recover topic)) rfl (fun _ => rfl) (fun _ => rfl) mem
  · show s ∈ q.messages.map _ ↔ _
    rw [List.mem_map]
    constructor
    · rintro ⟨n, here, rfl⟩
      by_cases onTopic : n.topic = topic
      · rw [if_pos onTopic] at apart
        exact absurd onTopic apart
      · rwa [if_neg onTopic]
    · intro here
      exact ⟨s, here, if_neg apart⟩

theorem outstanding_add (h : Recounts events q) (topic : String) :
    q.outstanding topic
        + (publications events).countP (fun m => acknowledged events m && m.topic = topic)
      = (publications events).countP fun m => m.topic = topic := by
  have rest : q.outstanding topic
      = (publications events).countP fun m => !acknowledged events m && m.topic = topic := by
    rw [outstanding, h.countP_messages]
    refine List.countP_congr fun m _ => ?_
    rw [Bool.and_comm]
    rfl
  rw [rest]
  induction publications events with
  | nil => rfl
  | cons m ms ih =>
    rw [List.countP_cons, List.countP_cons, List.countP_cons]
    cases acknowledged events m <;> by_cases onTopic : m.topic = topic <;> simp [onTopic] <;> omega

end Recounts

/-- **The law of delivery.**  It holds after every history of calls of a queue that was empty at
first. -/
theorem delivery_law (calls : List Call) : DeliveryLaw (eventsOf calls) (queueAfter calls) := by
  have h := recounts calls
  exact
    { runs := fun c => c.run_eq _
      ordered := h.ordered
      condition := fun m mem => h.condition mem
      published := fun s here => by
        obtain ⟨m, mem, -, rfl⟩ := h.mem_messages.1 here
        exact mem
      claim := h.claimLaw
      publish := fun topic partition e => by
        simp [waits, StoredMessage.publication, MemoryQueue.publish]
      release := fun id m mem =>
        h.waits_of_landing (h.call (.release id)) rfl (fun _ => rfl) (fun _ => rfl) mem
      again := fun _ _ _ d here between ev before => h.again here
      gone := fun m mem acked topic partition limit d here same => by
        obtain ⟨n, there, open_, -, rfl⟩ := h.of_delivery here
        rw [h.eq_of_id_eq there mem same, acked] at open_
        cases open_
      recover := h.recovers
      outstanding := h.outstanding_add }

end MemoryQueue

end Conveyor
