import Conveyor.Proofs.Queue.History
import Conveyor.Proofs.Submission.Publication

/-!
# What a submission does besides

Whatever a submission does, it does by calls of the tracker about its own task, by publishing
messages of its own task on the first topic, and in the services.  What these keep it keeps, be the
topology chained or not, and whether the task is accepted, fails or is refused.

* **`Submitter.keeps_submit`** — what calls about the task, its messages and the services keep.
* `Submitter.taskId_of_gained` — all messages that a submission publishes are of its task.
-/

namespace Conveyor

namespace Submitter

variable {V : Type} {P : MemoryPlant V → Prop} (task : Task)
  (calls : ∀ p (c : Tracker.Call), c.task = task.id → P p → P (p.told c))
  (services : ∀ p v, P p → P { p with services := v })

include calls in
theorem keeps_register (now : Timestamp) (topology : String) (expected : Int)
    (owner : Option String) (replace : Bool) :
    (Plant.onTracker (Tracker.register (.new now task.id topology expected owner) replace) :
      Action (MemoryPlant V) StoreError Unit).Keeps P := by
  intro p h
  have told := calls p (.register now task.id topology expected owner replace) rfl h
  have same : ((Tracker.Call.register now task.id topology expected owner replace).run p.tracker).2
      = (Tracker.register (.new now task.id topology expected owner) replace p.tracker).2 :=
    Action.snd_bind_pure _ (fun _ => Tracker.Answer.done) _
  rw [Plant.told, same] at told
  exact told

variable [Clock V] (s : Submitter V)

include services in
theorem keeps_expectedFromPrevious :
    (s.expectedFromPrevious task : Action (MemoryPlant V) SubmitError Int).Keeps P := by
  rw [expectedFromPrevious]
  cases task.previous? with
  | none => exact Action.keeps_pure _
  | some previous =>
    have asks : ((Plant.onTracker (Tracker.find previous)).mapError StoreError.toStepError :
        Action (MemoryPlant V) StepError (Option TaskInfo)).Keeps P :=
      Action.Keeps.mapError (fun _ h => h) _
    have retries := asks.retrying (fun p delay h => services p (Clock.sleep delay p.services) h)
      s.policy ("Error while reading task " ++ previous.text)
    exact (retries.mapError _).bind fun _ => Action.keeps_pure _

include calls in
/-- A report about the task. -/
theorem keeps_report {α : Type} {x : Timestamp → Action MemoryTracker StoreError α}
    (call : Timestamp → Tracker.Call) {change : Tracker.Change} {form : α → Tracker.Answer}
    (same : ∀ now, (call now).run = form <$> x now)
    (h : ∀ now, (call now).change? = some change) (own : ∀ now, (call now).task = task.id) :
    (Plant.report x : Action (MemoryPlant V) StoreError α).Keeps P := by
  intro p kept
  obtain ⟨a, told⟩ := Plant.report_of_map p (same (Clock.now p)) (h _)
  rw [told]
  exact calls p _ (own _) kept

include calls in
theorem keeps_accept (topology : Topology V) (expected : Int) :
    (s.accept topology task expected : Action (MemoryPlant V) SubmitError Unit).Keeps P := by
  have starts := keeps_report task calls (x := fun now => Tracker.start now task.id)
    (fun now => .start now task.id) (fun _ => rfl) (fun _ => rfl) fun _ => rfl
  refine (Action.keeps_gets _).bind fun now => ?_
  have registers := keeps_register (V := V) task calls now topology.name expected s.owner
    task.restart
  refine Action.Keeps.bind (registers.mapError _) fun _ => ?_
  exact (starts.mapError _).bind fun _ => Action.keeps_pure _

section

variable (publish : ∀ (topology : Topology V) p (r : SourceRecord),
  s.topologies.get? task.topology = some topology → P p →
    P { p with
      queue := (p.queue.publish topology.entryTopic (topology.partitionFor (r.envelope task))
        (r.envelope task)).2 })

include calls publish services

theorem keeps_publishOrFail {topology : Topology V}
    (found : s.topologies.get? task.topology = some topology) :
    (s.publishOrFail topology task : Action (MemoryPlant V) SubmitError Nat).Keeps P := by
  have publishing : ∀ records p, P p →
      P { p with queue := publishing topology task records p.queue } := by
    intro records
    induction records with
    | nil => exact fun _ h => h
    | cons r rest ih => exact fun p h => ih _ (publish topology p r found h)
  have publishes : (s.publishRecords topology task :
      Action (MemoryPlant V) SubmitError Nat).Keeps P := by
    intro p h
    have each := each_publishRecord (.source task.id) topology task (s.source task) p
    rw [publishRecords, each]
    exact services _ _ (publishing _ p h)
  refine publishes.recover fun err => ?_
  have fails := keeps_report task calls (x := fun now => Tracker.failTask now task.id err.message)
    (fun now => .failTask now task.id err.message) (fun _ => rfl) (fun _ => rfl) fun _ => rfl
  exact Action.Keeps.bind (fun p h => fails p h) fun _ => Action.keeps_fail err

/-- **What a submission keeps.** -/
theorem keeps_submit :
    (s.submit task : Action (MemoryPlant V) SubmitError Submission).Keeps P := by
  cases found : s.topologies.get? task.topology with
  | none =>
    rw [submit, found]
    exact Action.keeps_fail _
  | some topology =>
    have expects (n : Int) : (Plant.report fun now => Tracker.setExpected now task.id n :
        Action (MemoryPlant V) StoreError Unit).Keeps P := by
      intro p h
      rw [Plant.report_of_ok (x := fun now => Tracker.setExpected now task.id n) p
        (Tracker.setExpected_apply (Clock.now p) task.id n p.tracker)]
      exact calls p _ rfl h
    have goes (known : Int) : (s.proceed topology task known).Keeps P := by
      refine (keeps_accept task calls s topology known).bind fun _ => ?_
      refine (keeps_publishOrFail task calls services s publish found).bind fun published => ?_
      exact ((expects _).mapError _).bind fun _ => Action.keeps_pure _
    rw [submit_eq found, look]
    split
    · exact (keeps_expectedFromPrevious task services s).bind goes
    · exact (Action.keeps_pure _).bind goes

end

/-- **All that a submission publishes** is of its task. -/
theorem taskId_of_gained (s : Submitter V) (task : Task) (p : MemoryPlant V) :
    ∀ m ∈ MemoryQueue.gained p.queue (s.submit task p).2.queue, m.envelope.taskId = task.id := by
  intro m mem
  cases found : s.topologies.get? task.topology with
  | none =>
    rw [submit_of_unknown found, MemoryQueue.gained_self] at mem
    cases mem
  | some topology =>
    obtain ⟨records, queue⟩ := s.publishes_submit found p
    obtain ⟨new, messages, envelopes, -⟩ := messages_publishing topology task records p.queue
    rw [queue] at mem
    obtain ⟨stored, there, rfl⟩ := MemoryQueue.mem_of_gained messages mem
    have envelope := List.mem_map_of_mem (f := StoredMessage.envelope) there
    rw [envelopes] at envelope
    obtain ⟨r, -, same⟩ := List.mem_map.1 envelope
    show stored.envelope.taskId = task.id
    rw [← same, SourceRecord.taskId_envelope]

end Submitter

end Conveyor
