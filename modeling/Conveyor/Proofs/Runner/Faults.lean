import Conveyor.Proofs.Faults
import Conveyor.Proofs.Queue.Spares
import Conveyor.Proofs.Runner.Conservation

/-!
# Polls whose calls fail

A worker acknowledges a message only once its outcome was recorded, whatever calls fail meanwhile:
the tracker and its stores may answer anything, and calls of the queue may fail as long as they have
no effect then.  So every message of a batch is either recorded, acknowledged and gone, or it stands
in the queue as it was delivered; and none of them depends on how it went with another.

* `FaultyPlant` — a plant whose queue fails as planned; `Plant.Harmless` — without effect.
* `Worker.Recorded` — that the outcome of a message was recorded; `Worker.Settles` — that it was,
  and the message acknowledged.
* **`Worker.handled`** — every message is settled or given back.
* `Worker.Fate` — what has become of a message; `Worker.Fate.later` says that nothing done about
  others changes it.
* **`Worker.fates_of_poll`** — the fate of every message of a batch, and what the poll answers.
-/

namespace Conveyor

/-- A plant with a queue in memory whose calls fail as planned. -/
abbrev FaultyPlant (T N V : Type) : Type :=
  Plant (Faulty QueueOp StoreError MemoryQueue) T N V

variable {T N V : Type}

namespace Plant

/-- Calls with which messages are moved on have no effect if they fail. -/
structure Harmless (p : FaultyPlant T N V) : Prop where
  publish : p.queue.Harmless .publish
  ack : p.queue.Harmless .ack
  release : p.queue.Harmless .release

theorem Harmless.of_queue {p p' : FaultyPlant T N V} (h : p.Harmless)
    (keeps : ∀ op, p.queue.Harmless op → p'.queue.Harmless op) : p'.Harmless :=
  ⟨keeps _ h.publish, keeps _ h.ack, keeps _ h.release⟩

/-- A call of the queue that answers was made of the messages. -/
theorem store_of_onQueue_ok {op : QueueOp} {action : Action MemoryQueue StoreError α} {a : α}
    {p p' : FaultyPlant T N V} (h : onQueue (Faulty.call op action) p = (.ok a, p')) :
    action p.queue.store = (.ok a, p'.queue.store) := by
  rw [onQueue, Action.on_apply, Prod.mk.injEq] at h
  obtain ⟨answer, rfl⟩ := h
  exact Faulty.store_of_call_ok (Prod.ext answer rfl)

/-- **A call of the queue** does what it does to the messages, or fails and leaves them. -/
theorem onQueue_cases (op : QueueOp) (action : Action MemoryQueue StoreError α) {a : α}
    {q : MemoryQueue} {p : FaultyPlant T N V} (run : action p.queue.store = (.ok a, q))
    (harmless : p.Harmless) (kind : p.queue.Harmless op) :
    ∃ p', p'.Harmless ∧
      ((onQueue (Faulty.call op action) p = (.ok a, p') ∧ p'.queue.store = q) ∨
        ∃ err, onQueue (Faulty.call op action) p = (.error err, p') ∧
          p'.queue.store = p.queue.store) := by
  obtain ⟨f, keeps, made | ⟨err, failed⟩⟩ := Faulty.call_cases run kind
  · refine ⟨{ p with queue := f }, harmless.of_queue keeps, .inl ⟨?_, made.2⟩⟩
    rw [onQueue, Action.on_apply]
    simp only [queuePart, made.1]
  · refine ⟨{ p with queue := f }, harmless.of_queue keeps, .inr ⟨err, ?_, failed.2⟩⟩
    rw [onQueue, Action.on_apply]
    simp only [queuePart, failed.1]

theorem queue_of_report [Clock V] {α : Type} {r : Except StoreError α}
    {x : Timestamp → Action (Tracker T N) StoreError α} {p told : FaultyPlant T N V}
    (report : Plant.report x p = (r, told)) : told.queue = p.queue :=
  congrArg (Plant.queue ∘ Prod.snd) report.symm

end Plant

namespace Worker

theorem queue_of_isVoid [TaskStore T] {d : Delivery} {r : Except StoreError Bool}
    {turn p : FaultyPlant T N V} (found : isVoid d turn = (r, p)) : p.queue = turn.queue :=
  congrArg (Plant.queue ∘ Prod.snd) found.symm

theorem claim_cases {w : Worker V} {p claimed : FaultyPlant T N V} {batch : List Delivery}
    (claim : w.claim p = (.ok batch, claimed)) :
    batch = (p.queue.store.claim w.topic w.partition w.batch).1 ∧
      claimed.queue.store = (p.queue.store.claim w.topic w.partition w.batch).2 := by
  have made : ((.ok (p.queue.store.claim w.topic w.partition w.batch).1,
      (p.queue.store.claim w.topic w.partition w.batch).2) :
        Except StoreError (List Delivery) × MemoryQueue) = (.ok batch, claimed.queue.store) :=
    Plant.store_of_onQueue_ok claim
  rw [Prod.mk.injEq, Except.ok.injEq] at made
  exact ⟨made.1.symm, made.2.symm⟩

variable [TaskStore T] [NotificationSink N] [Clock V] {w : Worker V} {d : Delivery}
  {turn : FaultyPlant T N V}

/-! ## One message -/

/-- That the outcome of a message was recorded, from its turn on, and which messages were published
for it. -/
inductive Recorded (w : Worker V) (d : Delivery) (turn : FaultyPlant T N V) :
    List Publication → FaultyPlant T N V → Prop where
  /-- Its task was found to be dropped, so that there is nothing to record. -/
  | void {p : FaultyPlant T N V} (found : isVoid d turn = (.ok true, p)) : Recorded w d turn [] p
  /-- Its record was published to the next topic. -/
  | handedOn {p published : FaultyPlant T N V} {e : Envelope} {v : V} {topic : String}
      {id : MessageId} (live : isVoid d turn = (.ok false, p))
      (run : w.stage.run d.envelope p.services = (.forward e, v)) (next : w.next = some topic)
      (publish : Plant.onQueue (MessageQueue.publish topic (w.topology.partitionFor e) e)
        { p with services := v } = (.ok id, published)) :
      Recorded w d turn [⟨id, topic, w.topology.partitionFor e, e⟩] published
  /-- The tracker has taken in that its record has come through. -/
  | processed {p told : FaultyPlant T N V} {e : Envelope} {v : V} {a : Option TaskState}
      (live : isVoid d turn = (.ok false, p))
      (run : w.stage.run d.envelope p.services = (.forward e, v)) (next : w.next = none)
      (report : Plant.report (fun now => Tracker.processed now d.envelope.taskId)
        { p with services := v } = (.ok a, told)) : Recorded w d turn [] told
  /-- The tracker has taken in that its record has failed. -/
  | failed {p told : FaultyPlant T N V} {e : RecordError} {v : V} {a : Option TaskState}
      (live : isVoid d turn = (.ok false, p))
      (run : w.stage.run d.envelope p.services = (.error e, v))
      (report : Plant.report (fun now => Tracker.failed now e)
        { p with services := v } = (.ok a, told)) : Recorded w d turn [] told
  /-- The tracker has taken in that its record was removed. -/
  | deleted {p told : FaultyPlant T N V} {id : TaskId} {resource : String} {v : V}
      {a : Option TaskState} (live : isVoid d turn = (.ok false, p))
      (run : w.stage.run d.envelope p.services = (.drop id resource, v))
      (report : Plant.report (fun now => Tracker.deleted now id resource)
        { p with services := v } = (.ok a, told)) : Recorded w d turn [] told

/-- That the outcome of a message was recorded, and then the message acknowledged. -/
def Settles (w : Worker V) (d : Delivery) (turn settled : FaultyPlant T N V) : Prop :=
  ∃ new recorded, Recorded w d turn new recorded ∧
    Plant.onQueue (MessageQueue.ack d.id) recorded = (.ok (), settled)

section

variable {new : List Publication} {outcome : Outcome} {p recorded settled : FaultyPlant T N V}

theorem conclude_of_record (record : w.record d.envelope.taskId outcome p = (.ok (), recorded)) :
    w.conclude d (some outcome) p = w.conclude d none recorded := by
  rw [conclude, conclude, settle, settle]
  simp only
  rw [Action.bind_of_ok record]

theorem conclude_of_record_error {err : StoreError}
    (record : w.record d.envelope.taskId outcome p = (.error err, recorded)) :
    w.conclude d (some outcome) p = (0, giveBack d recorded) := by
  rw [conclude, settle]
  simp only
  rw [Action.bind_of_error record]

theorem conclude_of_ack (ack : Plant.onQueue (MessageQueue.ack d.id) p = (.ok (), settled)) :
    w.conclude d none p = (1, settled) := by
  have settle : w.settle d none p = (.ok (), settled) := ack
  rw [conclude, settle]

theorem conclude_of_ack_error {err : StoreError}
    (ack : Plant.onQueue (MessageQueue.ack d.id) p = (.error err, settled)) :
    w.conclude d none p = (0, giveBack d settled) := by
  have settle : w.settle d none p = (.error err, settled) := ack
  rw [conclude, settle]

theorem handle_of_live (live : isVoid d turn = (.ok false, p)) :
    w.handle d turn = w.conclude d (some (w.stage.run d.envelope p.services).1)
      { p with services := (w.stage.run d.envelope p.services).2 } := by
  rw [handle, examine, Action.bind_of_ok live]
  rfl

/-- Once its outcome is recorded, a message only has to be acknowledged. -/
theorem handle_of_recorded (h : Recorded w d turn new recorded) :
    w.handle d turn = w.conclude d none recorded := by
  cases h with
  | void found =>
    rw [handle, examine, Action.bind_of_ok found]
    rfl
  | handedOn live run next publish =>
    rw [handle_of_live live, run]
    refine conclude_of_record ?_
    simp only [record, next]
    rw [Action.bind_of_ok publish]
    rfl
  | processed live run next report =>
    rw [handle_of_live live, run]
    refine conclude_of_record ?_
    simp only [record, next]
    rw [Action.bind_of_ok report]
    rfl
  | failed live run report =>
    rw [handle_of_live live, run]
    refine conclude_of_record ?_
    rw [record, Action.bind_of_ok report]
    rfl
  | deleted live run report =>
    rw [handle_of_live live, run]
    refine conclude_of_record ?_
    rw [record, Action.bind_of_ok report]
    rfl

/-- **A message that is settled** is counted, and its handling ends with that. -/
theorem handle_of_settles (h : Settles w d turn settled) : w.handle d turn = (1, settled) := by
  obtain ⟨new, recorded, outcome, ack⟩ := h
  rw [handle_of_recorded outcome, conclude_of_ack ack]

/-- **What was published** for a message whose outcome was recorded is all that was done to the
messages. -/
theorem Recorded.store (h : Recorded w d turn new recorded) :
    MemoryQueue.Spares [] turn.queue.store recorded.queue.store ∧
      MemoryQueue.gained turn.queue.store recorded.queue.store = new := by
  have quiet : ∀ {p : FaultyPlant T N V}, p.queue = turn.queue →
      MemoryQueue.Spares [] turn.queue.store p.queue.store ∧
        MemoryQueue.gained turn.queue.store p.queue.store = [] := by
    intro p same
    rw [same]
    exact ⟨.refl .., MemoryQueue.gained_self _⟩
  cases h with
  | void found => exact quiet (queue_of_isVoid found)
  | @handedOn p _ e v topic id live run next publish =>
    have made : ((.ok (p.queue.store.publish topic (w.topology.partitionFor e) e).1,
        (p.queue.store.publish topic (w.topology.partitionFor e) e).2) :
          Except StoreError MessageId × MemoryQueue) = (.ok id, recorded.queue.store) :=
      Plant.store_of_onQueue_ok publish
    rw [Prod.mk.injEq, Except.ok.injEq] at made
    obtain ⟨rfl, store⟩ := made
    rw [← queue_of_isVoid live, ← store]
    exact ⟨.publish .., MemoryQueue.gained_publish ..⟩
  | processed live run next report =>
    have same := queue_of_isVoid live
    exact quiet ((Plant.queue_of_report report).trans same)
  | failed live run report =>
    have same := queue_of_isVoid live
    exact quiet ((Plant.queue_of_report report).trans same)
  | deleted live run report =>
    have same := queue_of_isVoid live
    exact quiet ((Plant.queue_of_report report).trans same)

/-- What the handling of a message comes to: the message is settled, or the handling breaks off and
the message is given back. -/
inductive Handled (w : Worker V) (d : Delivery) (turn : FaultyPlant T N V) : Prop where
  | settled {recorded settled : FaultyPlant T N V} {new : List Publication}
      (outcome : Recorded w d turn new recorded)
      (ack : Plant.onQueue (MessageQueue.ack d.id) recorded = (.ok (), settled))
      (harmless : settled.Harmless)
  | broken {p : FaultyPlant T N V} (run : w.handle d turn = (0, giveBack d p))
      (harmless : p.Harmless) (messages : MemoryQueue.Spares [] turn.queue.store p.queue.store)

theorem Recorded.handled (h : Recorded w d turn new recorded) (harmless : recorded.Harmless) :
    Handled w d turn := by
  obtain ⟨p, harmless, ⟨ack, -⟩ | ⟨err, ack, store⟩⟩ := Plant.onQueue_cases .ack
    (MessageQueue.ack d.id) rfl harmless harmless.ack
  · exact .settled h ack harmless
  · refine .broken ?_ harmless ?_
    · rw [handle_of_recorded h, conclude_of_ack_error ack]
    · rw [store]
      exact h.store.1

/-- Of a message whose outcome is reported, the tracker has taken it in, or the handling breaks
off. -/
theorem handled_of_report {α : Type} {x : Timestamp → Action (Tracker T N) StoreError α}
    (run : w.handle d turn = w.conclude d (some outcome) p) (same : p.queue = turn.queue)
    (harmless : turn.Harmless)
    (record : w.record d.envelope.taskId outcome p
      = (do let _ ← Plant.report x; pure () : Action (FaultyPlant T N V) StoreError Unit) p)
    (recorded : ∀ a told, Plant.report x p = (.ok a, told) → Recorded w d turn [] told) :
    Handled w d turn := by
  cases report : Plant.report x p with
  | mk r told =>
    have queue : told.queue = turn.queue := (Plant.queue_of_report report).trans same
    have harmless : told.Harmless := harmless.of_queue fun op h => by rwa [queue]
    cases r with
    | ok a => exact (recorded a told report).handled harmless
    | error err =>
      rw [Action.bind_of_error report] at record
      refine .broken ?_ harmless ?_
      · rw [run, conclude_of_record_error record]
      · rw [queue]
        exact .refl ..

/-- **Every message is settled or given back**, whatever the tracker and the stage answer. -/
theorem handled (w : Worker V) (d : Delivery) (harmless : turn.Harmless) : Handled w d turn := by
  cases found : isVoid d turn with
  | mk r p =>
    have same := queue_of_isVoid found
    have still : p.Harmless := harmless.of_queue fun op h => by rwa [same]
    cases r with
    | error err =>
      refine .broken (p := p) ?_ still ?_
      · rw [handle, examine, Action.bind_of_error found]
      · rw [same]
        exact .refl ..
    | ok void =>
      cases void with
      | true => exact (Recorded.void found).handled still
      | false =>
        have live := handle_of_live found (w := w)
        cases run : w.stage.run d.envelope p.services with
        | mk outcome v =>
        rw [run] at live
        cases outcome with
        | error e =>
          exact handled_of_report live same harmless rfl fun a told report =>
            .failed found run report
        | drop id resource =>
          exact handled_of_report live same harmless rfl fun a told report =>
            .deleted found run report
        | forward e =>
          cases next : w.next with
          | none =>
            refine handled_of_report live same harmless ?_ fun a told report =>
              .processed found run next report
            simp only [record, next]
          | some topic =>
            have still : ({ p with services := v } : FaultyPlant T N V).Harmless :=
              still.of_queue fun op h => h
            obtain ⟨published, harmless, ⟨publish, -⟩ | ⟨err, publish, store⟩⟩ :=
              Plant.onQueue_cases .publish
                (MessageQueue.publish topic (w.topology.partitionFor e) e)
                rfl still still.publish
            · exact (Recorded.handedOn found run next publish).handled harmless
            · have record : w.record d.envelope.taskId (.forward e) { p with services := v }
                  = (.error err, published) := by
                simp only [record, next]
                exact Action.bind_of_error publish
              refine .broken ?_ harmless ?_
              · rw [live, conclude_of_record_error record]
              · rw [store, ← same]
                exact .refl ..

/-! ## The fate of a message -/

/-- What has become of a message: `turn` is the plant when its turn came, and `after` is a plant
later on. -/
inductive Fate (w : Worker V) (d : Delivery) (turn after : FaultyPlant T N V) : Prop where
  /-- Its outcome was recorded, what was published for it is out and is nothing else, then it was
  acknowledged, and it is gone. -/
  | acknowledged {recorded settled : FaultyPlant T N V} {new : List Publication}
      (outcome : Recorded w d turn new recorded)
      (once : MemoryQueue.gained turn.queue.store recorded.queue.store = new)
      (out : ∀ m ∈ new, m ∈ after.queue.store.standingOf)
      (ack : Plant.onQueue (MessageQueue.ack d.id) recorded = (.ok (), settled))
      (gone : d.id ∉ after.queue.store.ids)
  /-- It was not settled but released, and waits as it was delivered. -/
  | waits {p released : FaultyPlant T N V} {m : StoredMessage}
      (unsettled : ∀ settled, ¬ Settles w d turn settled)
      (release : Plant.onQueue (MessageQueue.release d.id) p = (.ok (), released))
      (run : w.handle d turn = (0, released))
      (stands : m ∈ after.queue.store.messages) (same : m.delivery = d)
      (pending : m.inFlight = false)
  /-- It was not settled and could not be released, and is in flight as it was delivered, until its
  topic is recovered. -/
  | flies {p kept : FaultyPlant T N V} {m : StoredMessage} {err : StoreError}
      (unsettled : ∀ settled, ¬ Settles w d turn settled)
      (release : Plant.onQueue (MessageQueue.release d.id) p = (.error err, kept))
      (run : w.handle d turn = (0, kept))
      (stands : m ∈ after.queue.store.messages) (same : m.delivery = d)
      (flying : m.inFlight = true)
      (back : m.landed ∈ (after.queue.store.recover w.topic).2.messages)

/-- **Nothing that is done about other messages** changes the fate of one. -/
theorem Fate.later {after after' : FaultyPlant T N V} {ids : List MessageId}
    (h : Fate w d turn after) (held : Holds turn.queue.store d) (topic : d.topic = w.topic)
    (issued : turn.queue.store.issued ≤ after.queue.store.issued)
    (spares : MemoryQueue.Spares ids after.queue.store after'.queue.store) (apart : d.id ∉ ids)
    (older : ∀ id ∈ ids, id.value ≤ turn.queue.store.issued) : Fate w d turn after' := by
  have given := held.le_issued
  cases h with
  | @acknowledged recorded settled new outcome once out ack gone =>
    have fresh : ∀ m ∈ new, m.id ∉ ids := by
      intro m mem old
      rw [← once] at mem
      have newer := of_decide_eq_true (List.mem_filter.1 mem).2
      have older := older m.id old
      omega
    refine .acknowledged outcome once (fun m mem => ?_) ack ?_
    · exact spares.mem_standingOf (out m mem) (fresh m mem)
    · rw [spares.mem_ids_iff apart (by omega)]
      exact gone
  | @waits _ _ m unsettled release run stands same pending =>
    have number : m.id = d.id := congrArg Delivery.id same
    exact .waits unsettled release run (spares.stays m stands (by rwa [number])) same pending
  | @flies _ _ m _ unsettled release run stands same flying back =>
    have number : m.id = d.id := congrArg Delivery.id same
    have stands := spares.stays m stands (by rwa [number])
    refine .flies unsettled release run stands same flying ?_
    rw [← topic, ← same]
    exact MemoryQueue.mem_recover stands

theorem unsettled_of_handle {after : FaultyPlant T N V} (run : w.handle d turn = (0, after))
    (settled : FaultyPlant T N V) : ¬ Settles w d turn settled := by
  intro settles
  rw [handle_of_settles settles] at run
  cases run

/-- What is true once a message was handled: all others stay as they are, and the message counts if
it is gone. -/
structure Dealt (w : Worker V) (d : Delivery) (turn : FaultyPlant T N V) : Prop where
  harmless : (w.handle d turn).2.Harmless
  spares : MemoryQueue.Spares [d.id] turn.queue.store (w.handle d turn).2.queue.store
  fate : Fate w d turn (w.handle d turn).2
  count : (w.handle d turn).1 = if d.id ∉ (w.handle d turn).2.queue.store.ids then 1 else 0

theorem Dealt.of_settled (outcome : Recorded w d turn new recorded)
    (ack : Plant.onQueue (MessageQueue.ack d.id) recorded = (.ok (), settled))
    (harmless : settled.Harmless) (held : Holds turn.queue.store d) : Dealt w d turn := by
  have run := handle_of_settles ⟨new, recorded, outcome, ack⟩
  have acked : ((.ok (), recorded.queue.store.ack d.id) : Except StoreError Unit × MemoryQueue)
      = (.ok (), settled.queue.store) := Plant.store_of_onQueue_ok ack
  rw [Prod.mk.injEq] at acked
  have store : settled.queue.store = recorded.queue.store.ack d.id := acked.2.symm
  have gone : d.id ∉ settled.queue.store.ids := by
    rw [store]
    exact MemoryQueue.not_mem_ids_ack d.id recorded.queue.store
  have spares : MemoryQueue.Spares [d.id] recorded.queue.store settled.queue.store := by
    rw [store]
    exact .ack ..
  have out : ∀ m ∈ new, m ∈ settled.queue.store.standingOf := by
    intro m mem
    rw [← outcome.store.2] at mem
    have newer := of_decide_eq_true (List.mem_filter.1 mem).2
    have given := held.le_issued
    refine spares.mem_standingOf (List.mem_of_mem_filter mem) fun same => ?_
    rw [List.mem_singleton.1 same] at newer
    omega
  constructor
  · rw [run]
    exact harmless
  · rw [run]
    exact (outcome.store.1.weaken (List.nil_subset _)).trans spares
  · rw [run]
    exact .acknowledged outcome outcome.store.2 out ack gone
  · rw [run, if_pos gone]

/-- A message that was not settled and stands in the queue. -/
theorem Dealt.of_kept {m : StoredMessage} (run : w.handle d turn = (0, p)) (harmless : p.Harmless)
    (spares : MemoryQueue.Spares [d.id] turn.queue.store p.queue.store)
    (stands : m ∈ p.queue.store.messages) (same : m.delivery = d) (fate : Fate w d turn p) :
    Dealt w d turn := by
  have there : d.id ∈ p.queue.store.ids :=
    List.mem_map.2 ⟨m, stands, congrArg Delivery.id same⟩
  constructor
  · rw [run]
    exact harmless
  · rw [run]
    exact spares
  · rw [run]
    exact fate
  · rw [run, if_neg (not_not_intro there)]

/-- **The handling of a message** that was claimed. -/
theorem dealt (harmless : turn.Harmless) (held : Holds turn.queue.store d)
    (topic : d.topic = w.topic) : Dealt w d turn := by
  cases w.handled d harmless with
  | settled outcome ack still => exact .of_settled outcome ack still held
  | @broken p run still messages =>
    have broken : MemoryQueue.Spares [d.id] turn.queue.store p.queue.store :=
      messages.weaken (List.nil_subset _)
    obtain ⟨m, mem, flying, same⟩ := messages.holds held (List.not_mem_nil)
    have number : m.id = d.id := congrArg Delivery.id same
    obtain ⟨q, harmless, ⟨release, store⟩ | ⟨err, release, store⟩⟩ := Plant.onQueue_cases .release
      (MessageQueue.release d.id) rfl still still.release
    · have run : w.handle d turn = (0, q) := run.trans (congrArg (Prod.mk 0 ∘ Prod.snd) release)
      have stands : m.landed ∈ q.queue.store.messages := by
        rw [store, ← number]
        exact MemoryQueue.mem_release mem
      refine .of_kept run harmless ?_ stands same
        (.waits (unsettled_of_handle run) release run stands same rfl)
      rw [store]
      exact broken.trans (.release ..)
    · have run : w.handle d turn = (0, q) := run.trans (congrArg (Prod.mk 0 ∘ Prod.snd) release)
      have stands : m ∈ q.queue.store.messages := by rwa [store]
      have back : m.landed ∈ (q.queue.store.recover w.topic).2.messages := by
        rw [← topic, ← same]
        exact MemoryQueue.mem_recover stands
      refine .of_kept run harmless ?_ stands same
        (.flies (unsettled_of_handle run) release run stands same flying back)
      rwa [store]

/-- The messages that come after one are in flight still when it was handled. -/
theorem Dealt.held (h : Dealt w d turn) {rest : List Delivery} (apart : d.id ∉ rest.map Delivery.id)
    (held : ∀ d' ∈ rest, Holds turn.queue.store d' ∧ d'.topic = w.topic) :
    ∀ d' ∈ rest, Holds (w.handle d turn).2.queue.store d' ∧ d'.topic = w.topic := by
  intro d' mem
  obtain ⟨holds, topic⟩ := held d' mem
  refine ⟨h.spares.holds holds fun same => apart ?_, topic⟩
  rw [← List.mem_singleton.1 same]
  exact List.mem_map_of_mem mem

/-! ## A batch -/

theorem serve_cons (w : Worker V) (d : Delivery) (rest : List Delivery) (p : FaultyPlant T N V) :
    w.serve (d :: rest) p = ((w.handle d p).1 + (w.serve rest (w.handle d p).2).1,
      (w.serve rest (w.handle d p).2).2) := rfl

theorem serve_append (w : Worker V) (before rest : List Delivery) (p : FaultyPlant T N V) :
    (w.serve (before ++ rest) p).2 = (w.serve rest (w.serve before p).2).2 := by
  induction before generalizing p with
  | nil => rfl
  | cons d before ih => exact ih (w.handle d p).2

/-- What is true once a batch was served: all messages outside it stay as they are, and those count
that are gone. -/
structure Served (w : Worker V) (batch : List Delivery) (turn : FaultyPlant T N V) : Prop where
  harmless : (w.serve batch turn).2.Harmless
  spares : MemoryQueue.Spares (batch.map Delivery.id) turn.queue.store
    (w.serve batch turn).2.queue.store
  count : (w.serve batch turn).1
    = batch.countP fun d => d.id ∉ (w.serve batch turn).2.queue.store.ids

theorem served {batch : List Delivery} (nodup : (batch.map Delivery.id).Nodup)
    (harmless : turn.Harmless)
    (held : ∀ d ∈ batch, Holds turn.queue.store d ∧ d.topic = w.topic) : Served w batch turn := by
  induction batch generalizing turn with
  | nil => exact ⟨harmless, .refl .., rfl⟩
  | cons d rest ih =>
    rw [List.map_cons, List.nodup_cons] at nodup
    obtain ⟨apart, nodup⟩ := nodup
    obtain ⟨here, topic⟩ := held d (List.mem_cons_self ..)
    have first := dealt harmless here topic
    have last := ih nodup first.harmless
      (first.held apart fun d' mem => held d' (List.mem_cons_of_mem _ mem))
    have issued := first.spares.issued
    have given := here.le_issued
    have stays := last.spares.mem_ids_iff apart (by omega)
    constructor
    · rw [serve_cons]
      exact last.harmless
    · rw [serve_cons]
      exact (first.spares.weaken (by simp)).trans (last.spares.weaken (List.subset_cons_self ..))
    · rw [serve_cons]
      rw [first.count, last.count, List.countP_cons, Nat.add_comm]
      simp only [decide_eq_true_eq, stays]

/-! ## A poll -/

/-- **No message is lost**, whatever calls of a poll fail once its batch is claimed: each is
recorded, acknowledged and gone, or stands in the queue as it was delivered, and the poll answers
how many are gone. -/
theorem fates_of_poll (w : Worker V) {p claimed : FaultyPlant T N V} {batch : List Delivery}
    (claim : w.claim p = (.ok batch, claimed)) (harmless : claimed.Harmless) :
    ∃ n after, w.poll p = (.ok n, after) ∧
      n = batch.countP (fun d => d.id ∉ after.queue.store.ids) ∧
      ∀ before d rest, batch = before ++ d :: rest →
        Fate w d (w.serve before claimed).2 after := by
  obtain ⟨taken, store⟩ := claim_cases claim
  have held : ∀ d ∈ batch, Holds claimed.queue.store d ∧ d.topic = w.topic := by
    intro d mem
    rw [taken] at mem
    obtain ⟨holds, topic, -⟩ := Holds.of_claim mem
    rw [store]
    exact ⟨holds, topic⟩
  have nodup : (batch.map Delivery.id).Nodup := by
    rw [taken]
    exact MemoryQueue.nodup_claim ..
  refine ⟨(w.serve batch claimed).1, (w.serve batch claimed).2, ?_, (served nodup harmless held).count,
    fun before d rest split => ?_⟩
  · rw [poll, Action.bind_of_ok claim]
    rfl
  · subst split
    rw [List.map_append, List.map_cons, List.nodup_append, List.nodup_cons] at nodup
    obtain ⟨first, ⟨own, last⟩, apart⟩ := nodup
    have earlier := served first harmless fun d' mem => held d' (List.mem_append_left _ mem)
    have untouched : ∀ d' ∈ d :: rest, d'.id ∉ before.map Delivery.id := fun d' mem there =>
      apart _ there _ (List.mem_map_of_mem (f := Delivery.id) mem) rfl
    -- those whose turn has not come are in flight still
    have waiting : ∀ d' ∈ d :: rest, Holds (w.serve before claimed).2.queue.store d' ∧
        d'.topic = w.topic := by
      intro d' mem
      obtain ⟨holds, topic⟩ := held d' (List.mem_append_right _ mem)
      exact ⟨earlier.spares.holds holds (untouched d' mem), topic⟩
    obtain ⟨here, topic⟩ := waiting d (List.mem_cons_self ..)
    have turn := dealt earlier.harmless here topic
    have later := served last turn.harmless
      (turn.held own fun d' mem => waiting d' (List.mem_cons_of_mem _ mem))
    rw [serve_append, serve_cons]
    refine turn.fate.later here topic turn.spares.issued later.spares own fun id mem => ?_
    obtain ⟨d', there, rfl⟩ := List.mem_map.1 mem
    exact (waiting d' (List.mem_cons_of_mem _ there)).1.le_issued

end

end Worker

/-! ## A batch of three -/

/-- Three records wait, and three calls are to fail: the first count, the second acknowledgement,
and the second release. -/
def strained : FaultyPlant (Faulty TaskOp StoreError MemoryTasks) MemoryNotifications
    (Timed Unit) where
  queue.store := publishing relayTopology relayTask (["a", "b", "c"].map .ofResource) .empty
  queue.plan op := if op = .ack ∨ op = .release then [none, some ⟨.storage "down", false⟩] else []
  tracker.tasks.store := .empty
  tracker.tasks.plan op := if op = .increment then [some ⟨.storage "down", false⟩] else []
  tracker.notices := .empty
  services := Timed.start .epoch ()

def strainedWorker : Worker (Timed Unit) := { relayWorker with batch := 3, batch_pos := by decide }

theorem harmless_strained : strained.Harmless := by
  have plans : ∀ op fault, some fault ∈ strained.queue.plan op → fault.afterwards = false := by
    intro op fault mem
    have plan : strained.queue.plan op
        = if op = .ack ∨ op = .release then [none, some ⟨.storage "down", false⟩] else [] := rfl
    rw [plan] at mem
    split at mem
    · obtain rfl : fault = ⟨.storage "down", false⟩ := by simpa using mem
      rfl
    · cases mem
  exact ⟨plans _, plans _, plans _⟩

/-- One record is counted, one waits again, and one is in flight. -/
theorem fates_of_poll_three :
    ∃ batch claimed, strainedWorker.claim strained = (.ok batch, claimed) ∧ claimed.Harmless ∧
      batch.length = 3 ∧ ∃ after, strainedWorker.poll strained = (.ok 1, after) ∧
        after.queue.store.messages.map StoredMessage.inFlight = [false, true] ∧
        ∀ before d rest, batch = before ++ d :: rest →
          Worker.Fate strainedWorker d (strainedWorker.serve before claimed).2 after := by
  have claim : strainedWorker.claim strained
      = (.ok ((strained.queue.store.claim relayWorker.topic 0 3).1),
        { strained with queue :=
          { strained.queue with store := (strained.queue.store.claim relayWorker.topic 0 3).2 } }) :=
    rfl
  have harmless := harmless_strained
  obtain ⟨n, after, poll, -, fates⟩ :=
    Worker.fates_of_poll strainedWorker claim ⟨harmless.publish, harmless.ack, harmless.release⟩
  have answer : (strainedWorker.poll strained).1.toOption = some 1 := by decide +kernel
  have flights : (strainedWorker.poll strained).2.queue.store.messages.map StoredMessage.inFlight
      = [false, true] := by decide +kernel
  rw [poll] at answer flights
  obtain rfl : n = 1 := Option.some.inj answer
  exact ⟨_, _, claim, ⟨harmless.publish, harmless.ack, harmless.release⟩, by decide +kernel,
    after, poll, flights, fates⟩

end Conveyor
