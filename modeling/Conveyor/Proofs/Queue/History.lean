import Conveyor.Proofs.Queue.Contents

/-!
# Queues and their histories

A queue that was empty at first is what has happened to it: it contains the messages that were
published and not acknowledged since, in the order of their publication, each in flight if it was
delivered and has not come back since, and with as many attempts as claims have delivered it,
counted with 32 bits.

* `MemoryQueue.Call` and `MemoryQueue.Event` — the calls of a queue, and the calls with their
  answers; `queueAfter` and `eventsOf` are the queue and the events after a history of calls, the
  latest first.
* `publications`, `acknowledged`, `flying`, `attempts` — what events say of messages; `standing` are
  the messages as the events have them.
* **`MemoryQueue.Recounts.call`** — every call keeps the queue what its history says.
* **`MemoryQueue.recounts`** — so it is after every history.
-/

namespace Conveyor

variable {α : Type}

/-- What stands in a list after a claim, if nothing stands in it twice: the items as they were, but
for those that were taken. -/
theorem claimFirst_snd [DecidableEq α] {wanted : α → Bool} {change : α → α} {limit : Nat}
    {items : List α} (nodup : items.Nodup) :
    (claimFirst wanted change limit items).2
      = items.map fun a => if a ∈ (items.filter wanted).take limit then change a else a := by
  fun_induction claimFirst wanted change limit items with
  | case1 => rfl
  | case2 => simp
  | case3 limit item rest wants taken left eq ih =>
    obtain ⟨fresh, nodup⟩ := List.nodup_cons.1 nodup
    rw [eq] at ih
    have tail : left = _ := ih nodup
    rw [List.filter_cons_of_pos wants, List.take_succ_cons, List.map_cons, tail]
    simp only [List.mem_cons, true_or, if_true, List.cons.injEq, true_and]
    refine List.map_congr_left fun a mem => ?_
    have apart : a ≠ item := fun same => fresh (same ▸ mem)
    simp only [apart, false_or]
  | case4 limit item rest wants taken left eq ih =>
    obtain ⟨fresh, nodup⟩ := List.nodup_cons.1 nodup
    rw [eq] at ih
    have stays : item ∉ (rest.filter wanted).take (limit + 1) := fun mem =>
      fresh (List.mem_of_mem_filter (List.mem_of_mem_take mem))
    have tail : left = _ := ih nodup
    rw [List.filter_cons_of_neg wants, List.map_cons, if_neg stays, tail]

/-- A message as it was published. -/
structure Publication where
  id : MessageId
  topic : String
  partition : Nat
  envelope : Envelope
deriving DecidableEq

def StoredMessage.publication (m : StoredMessage) : Publication :=
  ⟨m.id, m.topic, m.partition, m.envelope⟩

def Delivery.publication (d : Delivery) : Publication := ⟨d.id, d.topic, d.partition, d.envelope⟩

namespace MemoryQueue

/-! ## What a claim takes -/

section

variable {topic : String} {partition limit : Nat} {q : MemoryQueue}

/-- The messages that a claim takes. -/
def taken (topic : String) (partition limit : Nat) (q : MemoryQueue) : List StoredMessage :=
  (q.messages.filter (StoredMessage.isPendingOn topic partition)).take limit

theorem mem_of_taken {s : StoredMessage} (took : s ∈ taken topic partition limit q) :
    s ∈ q.messages ∧ s.isPendingOn topic partition = true :=
  List.mem_filter.1 (List.mem_of_mem_take took)

/-- What a claim takes is pending on the partition. -/
theorem pending_of_taken {s : StoredMessage} (took : s ∈ taken topic partition limit q) :
    s.inFlight = false ∧ s.topic = topic ∧ s.partition = partition := by
  have wanted := (mem_of_taken took).2
  simp only [StoredMessage.isPendingOn, Bool.and_eq_true, Bool.not_eq_true', decide_eq_true_eq]
    at wanted
  exact ⟨wanted.1.1, wanted.2, wanted.1.2⟩

theorem batch_eq (topic : String) (partition limit : Nat) (q : MemoryQueue) :
    (q.claim topic partition limit).1
      = (taken topic partition limit q).map fun s => s.launched.delivery := by
  show (claimFirst _ _ limit q.messages).1.map StoredMessage.delivery = _
  rw [claimFirst_fst, List.map_map]
  rfl

theorem messages_claim (topic : String) (partition limit : Nat) (q : MemoryQueue) :
    (q.claim topic partition limit).2.messages
      = q.messages.map fun s =>
          if s ∈ taken topic partition limit q then s.launched else s :=
  claimFirst_snd (List.Nodup.of_map _ q.nodup_ids)

theorem rising_messages (q : MemoryQueue) :
    q.messages.Pairwise fun m n => m.id.value < n.id.value := List.pairwise_map.1 q.numbered

theorem rising_taken (topic : String) (partition limit : Nat) (q : MemoryQueue) :
    (taken topic partition limit q).Pairwise fun m n => m.id.value < n.id.value :=
  q.rising_messages.sublist ((List.take_sublist ..).trans List.filter_sublist)

/-- A message that a claim leaves waiting is behind all those that it takes. -/
theorem lt_of_not_taken {s₀ s : StoredMessage} (took : s₀ ∈ taken topic partition limit q)
    (mem : s ∈ q.messages) (waits : s.isPendingOn topic partition = true)
    (left : s ∉ taken topic partition limit q) :
    s₀.id.value < s.id.value := by
  have there : s ∈ q.messages.filter (StoredMessage.isPendingOn topic partition) :=
    List.mem_filter.2 ⟨mem, waits⟩
  have rising := q.rising_messages.sublist
    (List.filter_sublist (p := StoredMessage.isPendingOn topic partition))
  rw [← List.take_append_drop limit (q.messages.filter _)] at there rising
  exact (List.pairwise_append.1 rising).2.2 s₀ took s
    ((List.mem_append.1 there).resolve_left left)

end

/-! ## What a queue has gained -/

/-- The messages that stand in a queue, as they were published. -/
def standingOf (q : MemoryQueue) : List Publication := q.messages.map StoredMessage.publication

/-- The messages that a queue has received since it was another, as they were published. -/
def gained (before after : MemoryQueue) : List Publication :=
  after.standingOf.filter fun m => before.issued < m.id.value

theorem nodup_standingOf (q : MemoryQueue) : q.standingOf.Nodup := by
  refine List.Nodup.of_map (fun m : Publication => m.id.value) ?_
  rw [standingOf, List.map_map]
  exact q.nodup_ids

theorem le_issued_of_standing {q : MemoryQueue} {m : Publication} (h : m ∈ q.standingOf) :
    m.id.value ≤ q.issued := by
  obtain ⟨s, mem, rfl⟩ := List.mem_map.1 h
  exact q.given _ (List.mem_map_of_mem mem)

/-- What was published behind the messages of a queue is what the queue has gained. -/
theorem mem_of_gained {before after : MemoryQueue} {new : List StoredMessage}
    (messages : after.messages = before.messages ++ new) {m : Publication}
    (h : m ∈ gained before after) : ∃ s ∈ new, s.publication = m := by
  obtain ⟨mem, fresh⟩ := List.mem_filter.1 h
  rw [standingOf, messages, List.map_append, List.mem_append] at mem
  rcases mem with old | mem
  · have given := le_issued_of_standing (q := before) old
    have fresh : (before.issued : Int) < m.id.value := of_decide_eq_true fresh
    omega
  · exact List.mem_map.1 mem

theorem gained_self (q : MemoryQueue) : gained q q = [] := by
  refine List.filter_eq_nil_iff.2 fun m mem => ?_
  have given := le_issued_of_standing mem
  simpa using given

/-- A publication adds one message. -/
theorem gained_publish (topic : String) (partition : Nat) (e : Envelope) (q : MemoryQueue) :
    gained q (q.publish topic partition e).2 = [⟨⟨q.issued + 1⟩, topic, partition, e⟩] := by
  have old : q.standingOf.filter (fun m => decide ((q.issued : Int) < m.id.value)) = [] :=
    gained_self q
  rw [gained, standingOf, messages_publish, List.map_append, List.filter_append, ← standingOf, old,
    List.nil_append, List.map_singleton]
  exact List.filter_cons_of_pos (decide_eq_true (Int.lt_succ _))

theorem gained_ack (id : MessageId) (before after : MemoryQueue) :
    gained before (after.ack id) = (gained before after).filter fun m => m.id ≠ id := by
  have left : (after.ack id).standingOf = after.standingOf.filter fun m => m.id ≠ id := by
    rw [standingOf, standingOf, messages_ack, List.filter_map]
    rfl
  rw [gained, left, gained, List.filter_filter, List.filter_filter]
  exact List.filter_congr fun m _ => Bool.and_comm ..

/-! ## Calls and events -/

/-- The calls of a queue. -/
inductive Call where
  | publish (topic : String) (partition : Nat) (e : Envelope)
  | claim (topic : String) (partition limit : Nat)
  | ack (id : MessageId)
  | release (id : MessageId)
  | recover (topic : String)
  | outstanding (topic : String)

/-- A call with its answer. -/
inductive Event where
  | published (m : Publication)
  | claimed (topic : String) (partition limit : Nat) (batch : List Delivery)
  | acked (id : MessageId)
  | released (id : MessageId)
  | recovered (topic : String) (count : Nat)
  | counted (topic : String) (count : Nat)

namespace Call

def run : Call → Action MemoryQueue StoreError Event
  | publish topic partition e => do
      let id ← MessageQueue.publish topic partition e
      pure (.published ⟨id, topic, partition, e⟩)
  | claim topic partition limit => do
      let batch ← MessageQueue.claim topic partition limit
      pure (.claimed topic partition limit batch)
  | ack id => do
      MessageQueue.ack id
      pure (.acked id)
  | release id => do
      MessageQueue.release id
      pure (.released id)
  | recover topic => do
      let count ← MessageQueue.recover topic
      pure (.recovered topic count)
  | outstanding topic => do
      let count ← MessageQueue.outstanding topic
      pure (.counted topic count)

/-- What happens when a call is made. -/
def event (q : MemoryQueue) : Call → Event
  | publish topic partition e => .published ⟨(q.publish topic partition e).1, topic, partition, e⟩
  | claim topic partition limit => .claimed topic partition limit (q.claim topic partition limit).1
  | ack id => .acked id
  | release id => .released id
  | recover topic => .recovered topic (q.recover topic).1
  | outstanding topic => .counted topic (q.outstanding topic)

/-- The queue after a call. -/
def after (q : MemoryQueue) : Call → MemoryQueue
  | publish topic partition e => (q.publish topic partition e).2
  | claim topic partition limit => (q.claim topic partition limit).2
  | ack id => q.ack id
  | release id => q.release id
  | recover topic => (q.recover topic).2
  | outstanding _ => q

/-- **No call fails.** -/
theorem run_eq (c : Call) (q : MemoryQueue) : c.run q = (.ok (c.event q), c.after q) := by
  cases c <;> rfl

end Call

/-- An empty queue after a history of calls, the latest first. -/
def queueAfter : List Call → MemoryQueue
  | [] => .empty
  | c :: earlier => c.after (queueAfter earlier)

/-- What has happened to it, the latest first. -/
def eventsOf : List Call → List Event
  | [] => []
  | c :: earlier => c.event (queueAfter earlier) :: eventsOf earlier

/-! ## What events say of a message -/

namespace Event

def publication? : Event → Option Publication
  | published m => some m
  | _ => none

/-- Whether a message is delivered. -/
def delivers (id : MessageId) : Event → Bool
  | claimed _ _ _ batch => batch.any (·.id = id)
  | _ => false

/-- Whether a message comes back from its flight: it is released, or its topic is recovered. -/
def lands (m : Publication) : Event → Bool
  | released id => m.id = id
  | recovered topic _ => m.topic = topic
  | _ => false

def acks (id : MessageId) : Event → Bool
  | acked other => other = id
  | _ => false

end Event

/-- All messages that were published, the oldest first. -/
def publications (events : List Event) : List Publication :=
  (events.filterMap Event.publication?).reverse

/-- The events since a message was published. -/
def since (m : Publication) (events : List Event) : List Event :=
  events.takeWhile fun ev => ev.publication? ≠ some m

/-- Whether a message was acknowledged since it was published. -/
def acknowledged (events : List Event) (m : Publication) : Bool :=
  (since m events).any (·.acks m.id)

/-- Whether a message was delivered and has not come back since. -/
def flying (m : Publication) : List Event → Bool
  | [] => false
  | ev :: earlier => ev.delivers m.id || (!ev.lands m && flying m earlier)

/-- How many claims have delivered a message. -/
def attempts (events : List Event) (id : MessageId) : Nat := events.countP (·.delivers id)

/-- A message as its history has it. -/
def stored (events : List Event) (m : Publication) : StoredMessage :=
  ⟨m.id, m.topic, m.partition, m.envelope, flying m events, Fin.ofNat _ (attempts events m.id)⟩

/-- The messages that are not acknowledged, as the history has them. -/
def standing (events : List Event) : List StoredMessage :=
  ((publications events).filter fun m => !acknowledged events m).map (stored events)

section

variable {ev : Event} {events : List Event} {m : Publication}

theorem publications_cons (ev : Event) (events : List Event) :
    publications (ev :: events) = publications events ++ ev.publication?.toList := by
  rw [publications, List.filterMap_cons]
  cases ev.publication? with
  | none => simp [publications]
  | some m => simp [publications]

theorem publications_of_none (h : ev.publication? = none) :
    publications (ev :: events) = publications events := by
  rw [publications_cons, h, Option.toList_none, List.append_nil]

theorem acknowledged_cons (h : ev.publication? ≠ some m) :
    acknowledged (ev :: events) m = (ev.acks m.id || acknowledged events m) := by
  rw [acknowledged, since, List.takeWhile_cons_of_pos (by simpa using h), List.any_cons]
  rfl

theorem acknowledged_of_quiet (quiet : ev.publication? = none) (keeps : ∀ id, ev.acks id = false) :
    acknowledged (ev :: events) m = acknowledged events m := by
  rw [acknowledged_cons (by rw [quiet]; exact nofun), keeps, Bool.false_or]

theorem acknowledged_published (m : Publication) (events : List Event) :
    acknowledged (.published m :: events) m = false := by
  rw [acknowledged, since, List.takeWhile_cons_of_neg (by simp [Event.publication?])]
  rfl

theorem attempts_cons (id : MessageId) :
    attempts (ev :: events) id = attempts events id + if ev.delivers id then 1 else 0 :=
  List.countP_cons

end

/-! ## The queue is what its history says -/

/-- A queue is what has happened to it; and numbers are given in order, none is delivered that was
not given. -/
structure Recounts (events : List Event) (q : MemoryQueue) : Prop where
  ordered : (publications events).Pairwise fun a b => a.id.value < b.id.value
  given : ∀ m ∈ publications events, m.id.value ≤ q.issued
  delivered : ∀ ev ∈ events, ∀ id, ev.delivers id = true → id.value ≤ q.issued
  messages : q.messages = standing events

namespace Recounts

variable {ev : Event} {events : List Event} {q : MemoryQueue} {m n : Publication}

theorem eq_of_id_eq (h : Recounts events q) (hm : m ∈ publications events)
    (hn : n ∈ publications events) (same : m.id = n.id) : m = n := by
  have nodup : ((publications events).map (·.id.value)).Nodup :=
    List.pairwise_map.2 (h.ordered.imp fun lt => Int.ne_of_lt lt)
  exact List.inj_on_of_nodup_map nodup hm hn (congrArg MessageId.value same)

/-- A message that is not published yet was never delivered. -/
theorem fresh (h : Recounts events q) {id : MessageId} (new : q.issued < id.value) :
    ∀ ev ∈ events, ev.delivers id = false := by
  intro ev mem
  rw [Bool.eq_false_iff]
  intro delivers
  have := h.delivered ev mem id delivers
  omega

theorem flying_of_fresh (h : ∀ ev ∈ events, ev.delivers m.id = false) :
    flying m events = false := by
  induction events with
  | nil => rfl
  | cons ev earlier ih =>
    rw [flying, h ev (List.mem_cons_self ..), ih fun ev mem => h ev (List.mem_cons_of_mem _ mem)]
    simp

/-- **What an event makes of the messages**, if it neither publishes nor acknowledges one. -/
theorem standing_of_quiet {f : StoredMessage → StoredMessage} (quiet : ev.publication? = none)
    (keeps : ∀ id, ev.acks id = false)
    (change : ∀ m ∈ publications events, stored (ev :: events) m = f (stored events m)) :
    standing (ev :: events) = (standing events).map f := by
  rw [standing, publications_of_none quiet, standing, List.map_map]
  simp only [acknowledged_of_quiet quiet keeps]
  exact List.map_congr_left fun m mem => change m (List.mem_filter.1 mem).1

theorem publish (h : Recounts events q) (topic : String) (partition : Nat) (e : Envelope) :
    Recounts ((Call.publish topic partition e).event q :: events)
      (q.publish topic partition e).2 := by
  obtain ⟨m, new⟩ : ∃ m : Publication, m = ⟨⟨q.issued + 1⟩, topic, partition, e⟩ := ⟨_, rfl⟩
  have event : (Call.publish topic partition e).event q = .published m := by
    rw [new]
    rfl
  have value : m.id.value = q.issued + 1 := by rw [new]
  have less : ∀ p ∈ publications events, p.id.value < m.id.value := by
    intro p mem
    have := h.given p mem
    omega
  have nothing : ∀ ev ∈ events, ev.delivers m.id = false := h.fresh (by omega)
  rw [event]
  refine ⟨?_, ?_, ?_, ?_⟩
  · rw [publications_cons]
    refine List.pairwise_append.2 ⟨h.ordered, List.pairwise_singleton _ _, fun p mem p' last => ?_⟩
    obtain rfl : p' = m := List.mem_singleton.1 last
    exact less p mem
  · intro p mem
    rw [publications_cons, List.mem_append] at mem
    rw [issued_publish]
    rcases mem with mem | last
    · have := h.given p mem
      omega
    · obtain rfl : p = m := List.mem_singleton.1 last
      omega
  · intro ev mem id delivers
    rw [issued_publish]
    rcases List.mem_cons.1 mem with rfl | mem
    · cases delivers
    · have := h.delivered ev mem id delivers
      omega
  · -- the messages from before stand as they did, and the new one stands behind them
    have before : ∀ p ∈ publications events,
        acknowledged (.published m :: events) p = acknowledged events p := by
      intro p mem
      refine acknowledged_cons fun same => ?_
      obtain rfl : m = p := Option.some.inj same
      exact Int.lt_irrefl _ (less m mem)
    have last : stored (.published m :: events) m = ⟨m.id, topic, partition, e, false, 0⟩ := by
      have none : attempts events m.id = 0 := by
        rw [attempts, List.countP_eq_zero]
        intro ev mem
        rw [nothing ev mem]
        exact Bool.false_ne_true
      rw [stored, attempts_cons, none, flying, flying_of_fresh nothing, new]
      simp [Event.delivers]
    rw [standing, publications_cons, List.filter_append, List.map_append, messages_publish,
      h.messages, standing]
    refine congrArg₂ (· ++ ·) ?_ ?_
    · have keep : (publications events).filter (fun p => !acknowledged (.published m :: events) p)
          = (publications events).filter fun p => !acknowledged events p :=
        List.filter_congr fun p mem => by rw [before p mem]
      rw [keep]
      rfl
    · simp only [Event.publication?, Option.toList_some]
      rw [List.filter_cons_of_pos (by rw [acknowledged_published]; rfl), List.filter_nil,
        List.map_singleton, last, new]

/-- A message that stands in a queue is one of those that were published and not acknowledged
since. -/
theorem mem_messages (h : Recounts events q) {s : StoredMessage} :
    s ∈ q.messages ↔ ∃ m ∈ publications events, acknowledged events m = false ∧
      stored events m = s := by
  rw [h.messages, standing]
  simp only [List.mem_map, List.mem_filter, Bool.not_eq_true', and_assoc]

theorem not_acknowledged (h : Recounts events q) (mem : m ∈ publications events)
    (here : stored events m ∈ q.messages) : acknowledged events m = false := by
  obtain ⟨n, there, open_, same⟩ := h.mem_messages.1 here
  rwa [h.eq_of_id_eq there mem (congrArg StoredMessage.id same)] at open_

/-- A delivery is that of a message that was published and is taken. -/
theorem of_delivery (h : Recounts events q) {d : Delivery}
    (here : d ∈ (q.claim topic partition limit).1) :
    ∃ m ∈ publications events, acknowledged events m = false ∧
      stored events m ∈ taken topic partition limit q ∧ (stored events m).launched.delivery = d := by
  rw [batch_eq] at here
  obtain ⟨s, took, rfl⟩ := List.mem_map.1 here
  obtain ⟨m, mem, open_, rfl⟩ := h.mem_messages.1 (mem_of_taken took).1
  exact ⟨m, mem, open_, took, rfl⟩

/-- **A claim delivers** a message, as it was published, if it takes it. -/
theorem delivers_iff (h : Recounts events q) (topic : String) (partition limit : Nat)
    (mem : m ∈ publications events) :
    (((Call.claim topic partition limit).event q).delivers m.id = true ↔
        stored events m ∈ taken topic partition limit q) ∧
      ((∃ d ∈ (q.claim topic partition limit).1, d.publication = m) ↔
        stored events m ∈ taken topic partition limit q) := by
  have of_taken : stored events m ∈ taken topic partition limit q →
      (stored events m).launched.delivery ∈ (q.claim topic partition limit).1 := by
    intro took
    rw [batch_eq]
    exact List.mem_map_of_mem took
  have event : ((Call.claim topic partition limit).event q).delivers m.id = true ↔
      ∃ d ∈ (q.claim topic partition limit).1, d.id = m.id := by
    simp [Call.event, Event.delivers]
  rw [event]
  refine ⟨⟨?_, fun took => ⟨_, of_taken took, rfl⟩⟩, ⟨?_, fun took => ⟨_, of_taken took, rfl⟩⟩⟩
  · rintro ⟨d, here, same⟩
    obtain ⟨n, there, -, took, rfl⟩ := h.of_delivery here
    obtain rfl := h.eq_of_id_eq there mem same
    exact took
  · rintro ⟨d, here, same⟩
    obtain ⟨n, there, -, took, rfl⟩ := h.of_delivery here
    obtain rfl : n = m := same
    exact took

/-- An event that publishes nothing keeps the queue what its history says if it makes of the
messages what it should. -/
theorem of_publishes_none (h : Recounts events q) {q' : MemoryQueue}
    (quiet : ev.publication? = none) (issued : q'.issued = q.issued)
    (delivers : ∀ id, ev.delivers id = true → id.value ≤ q.issued)
    (messages : q'.messages = standing (ev :: events)) : Recounts (ev :: events) q' where
  ordered := by
    rw [publications_of_none quiet]
    exact h.ordered
  given := by
    rw [publications_of_none quiet, issued]
    exact h.given
  delivered := by
    intro ev' mem id
    rw [issued]
    rcases List.mem_cons.1 mem with rfl | mem
    · exact delivers id
    · exact h.delivered ev' mem id
  messages := messages

theorem claim (h : Recounts events q) (topic : String) (partition limit : Nat) :
    Recounts ((Call.claim topic partition limit).event q :: events)
      (q.claim topic partition limit).2 := by
  refine h.of_publishes_none rfl rfl (fun id delivers => ?_) ?_
  · obtain ⟨d, here, same⟩ := List.any_eq_true.1 delivers
    obtain ⟨m, there, -, -, rfl⟩ := h.of_delivery here
    obtain rfl := of_decide_eq_true same
    exact h.given m there
  · rw [messages_claim, h.messages]
    refine (standing_of_quiet rfl (fun _ => rfl) fun m mem => ?_).symm
    -- a message that is taken was delivered once more and is in flight now
    have delivers := (h.delivers_iff topic partition limit mem).1
    have lands : ((Call.claim topic partition limit).event q).lands m = false := rfl
    by_cases takes : stored events m ∈ taken topic partition limit q
    · rw [if_pos takes, stored, flying, attempts_cons, delivers.2 takes, if_pos rfl,
        Attempts.ofNat_succ]
      rfl
    · have none := Bool.eq_false_iff.2 (mt delivers.1 takes)
      rw [if_neg takes, stored, flying, attempts_cons, none, lands]
      rfl

theorem ack (h : Recounts events q) (id : MessageId) :
    Recounts (.acked id :: events) (q.ack id) := by
  have quiet : (Event.acked id).publication? = none := rfl
  have keep : ∀ m, (!acknowledged (.acked id :: events) m)
      = (((fun s : StoredMessage => decide (s.id ≠ id)) ∘ stored events) m
        && !acknowledged events m) := by
    intro m
    rw [acknowledged_cons (by rw [quiet]; exact nofun)]
    by_cases same : m.id = id
    · simp [Event.acks, stored, same]
    · simp [Event.acks, stored, same, Ne.symm same]
  refine h.of_publishes_none quiet rfl nofun ?_
  rw [messages_ack, h.messages, standing, standing, List.filter_map, List.filter_filter,
    publications_of_none quiet]
  simp only [keep]
  rfl

/-- An event that brings some messages back. -/
theorem landing (h : Recounts events q) {q' : MemoryQueue}
    (back : StoredMessage → Bool) (quiet : ev.publication? = none)
    (keeps : ∀ id, ev.acks id = false) (none : ∀ id, ev.delivers id = false)
    (lands : ∀ m, ev.lands m = back (stored events m)) (issued : q'.issued = q.issued)
    (messages : q'.messages = q.messages.map fun s => if back s then s.landed else s) :
    Recounts (ev :: events) q' := by
  refine h.of_publishes_none quiet issued (fun id delivers => ?_) ?_
  · rw [none] at delivers
    cases delivers
  · rw [messages, h.messages]
    refine (standing_of_quiet quiet keeps fun m _ => ?_).symm
    rw [stored, flying, attempts_cons, none, lands]
    cases back (stored events m) with
    | true => rfl
    | false => rfl

/-- **Every call keeps the queue what its history says.** -/
theorem call (h : Recounts events q) (c : Call) : Recounts (c.event q :: events) (c.after q) := by
  cases c with
  | publish topic partition e => exact h.publish topic partition e
  | claim topic partition limit => exact h.claim topic partition limit
  | ack id => exact h.ack id
  | release id =>
    refine h.landing (fun s => s.id = id) rfl (fun _ => rfl) (fun _ => rfl) (fun _ => rfl) rfl ?_
    simp only [decide_eq_true_eq]
    rfl
  | recover topic =>
    refine h.landing (fun s => s.topic = topic) rfl (fun _ => rfl) (fun _ => rfl) (fun _ => rfl)
      rfl ?_
    simp only [decide_eq_true_eq]
    rfl
  | outstanding topic =>
    refine h.landing (fun _ => false) rfl (fun _ => rfl) (fun _ => rfl) (fun _ => rfl) rfl ?_
    simp [Call.after]

end Recounts

/-- **A queue is what its history says**: the messages that were published and not acknowledged
since. -/
theorem recounts (calls : List Call) : Recounts (eventsOf calls) (queueAfter calls) := by
  induction calls with
  | nil => exact ⟨.nil, by simp [eventsOf, publications], by simp [eventsOf], rfl⟩
  | cons c earlier ih => exact ih.call c

end MemoryQueue

end Conveyor
