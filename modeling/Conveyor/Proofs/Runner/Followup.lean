import Conveyor.Proofs.Runner.Course
import Conveyor.Proofs.Stages.Preparatory
import Conveyor.Proofs.Submission.Chained

/-!
# What a follow-up task gets

A task that writes is followed up by a task of a chained topology whose records are those that the
archive then lists.  What is listed are the records that were written, and these are the ones that
the task counts as processed.  But the follow-up task expects all records that did not go wrong,
and so also those that were removed on the way.

* `Topology.Writes` — topologies that end in a write; `Ready` — what a task that writes begins with.
* `Underway` — how it stands once some of its records have come to their ends.
* **`Underway.handles`** — the handling of a message keeps that, and so does a poll.
* **`published_of_followup`** — what the submission of a follow-up task publishes and expects.
* `followup_never_ends` — a follow-up task that waits for a record that was removed.
-/

namespace Conveyor

open Rehearsal RehearsalServices

/-! ## Outcomes and listings -/

theorem Outcome.counter_eq_processed_iff {outcome : Outcome} :
    outcome.counter = .processed ↔ ∃ e, outcome = .forward e := by
  cases outcome <;> simp [counter]

/-- How many of some outcomes were forwarded. -/
abbrev forwardedOf (outcomes : List Outcome) : Nat := outcomes.countP (·.counter = .processed)

/-- Services in order that count every row. -/
structure Reliable (s : RehearsalServices MemoryBuckets) : Prop where
  inOrder : s.InOrder
  unplanned : ∀ op, s.bucketPlan op = []

theorem Reliable.beside {s s' : RehearsalServices MemoryBuckets} (h : Reliable s)
    (beside : Beside s s') : Reliable s' :=
  ⟨beside.inOrder, fun op => beside.unplanned op (h.unplanned op)⟩

/-- Nothing goes uncounted. -/
theorem countVersion_of_unplanned (f : Fittings) (counted : Bool)
    {s : RehearsalServices MemoryBuckets} (unplanned : ∀ op, s.bucketPlan op = [])
    (v : NewVersion) :
    (countVersion (if counted then some (bucketIndex f.counter bucketsPart) else none) f.policy v
      s).1 = .ok () := by
  cases counted with
  | false => rfl
  | true =>
    cases dataset : v.dataset with
    | none => simp [countVersion, dataset]
    | some d =>
      obtain ⟨s', count⟩ := count_of_unplanned unplanned f.counter (datasetObject v.provider d)
      simp only [countVersion, dataset, if_true]
      rw [retryingStep_of_ok f.policy _ count]

section

variable {f : Fittings} {counted : Bool} {query : DatasetInput}
  {s s' : RehearsalServices MemoryBuckets} {e : Envelope} {outcome : Outcome}

/-- **A record that goes to a query** is listed there once it is written, and forwarded; and only
then. -/
theorem listed_run_write (h : Reliable s) (goes : e.GoesTo query)
    (run : (f.stage (.write counted)).run e s = (outcome, s')) :
    Reliable s' ∧ (s'.archive.entriesOf query).length
      = (s.archive.entriesOf query).length + forwardedOf [outcome] := by
  have counts := leavesArchive_count_of_mem namesInOrder_memory f.counter counted
  cases version : e.version? with
  | none =>
    obtain ⟨outcome', run', ends⟩ := run_writeStage_of_none
      (if counted then some (bucketIndex f.counter bucketsPart) else none) f.policy version s
    obtain ⟨rfl, rfl⟩ := Prod.mk.inj (run.symm.trans run')
    have not_forwarded : outcome.counter ≠ .processed := fun same =>
      (Outcome.counter_eq_processed_iff.1 same).elim ends
    exact ⟨h, by simp [forwardedOf, not_forwarded]⟩
  | some v =>
    obtain ⟨outcome', s'', run', inOrder, archive, -, -, unplanned, ends⟩ :=
      run_writeStage_of_some f.policy counts version h.inOrder
    obtain ⟨rfl, rfl⟩ := Prod.mk.inj (run.symm.trans run')
    have forward : outcome = .forward (e.written (s.archive.addressOf v s.names.next)) := by
      refine ends.resolve_right ?_
      rintro ⟨created, plan, err, failed, -⟩
      have none : ∀ op, created.bucketPlan op = [] := by
        rw [plan]
        exact h.unplanned
      rw [countVersion_of_unplanned f counted none v] at failed
      cases failed
    have under := (Envelope.goesUnder_iff version query).2 goes
    refine ⟨⟨inOrder, fun op => unplanned op (h.unplanned op)⟩, ?_⟩
    rw [archive, Archive.entriesOf_create, if_pos under, List.length_append, forward]
    rfl

/-- A stage that prepares for a write adds nothing to a listing. -/
theorem listed_run_preparatory {stage : Stage (RehearsalServices MemoryBuckets)}
    (prepares : stage.Preparatory) (h : Reliable s) (query : DatasetInput)
    (run : stage.run e s = (outcome, s')) :
    Reliable s' ∧ s'.archive.entriesOf query = s.archive.entriesOf query := by
  have beside := prepares.beside_run e h.inOrder
  rw [run] at beside
  exact ⟨h.beside beside, by rw [show s'.archive = s.archive from beside.archive]⟩

end

/-! ## Tasks that write -/

/-- A topology whose last stage writes, and whose other stages prepare for that. -/
def Topology.Writes (topology : Topology (RehearsalServices MemoryBuckets)) (f : Fittings)
    (counted : Bool) : Prop :=
  ∃ before, topology.stages = before ++ [f.stage (.write counted)] ∧
    ∀ stage ∈ before, stage.Preparatory

/-- The last stage writes, and no other. -/
theorem Topology.Writes.stage_cases {topology : Topology (RehearsalServices MemoryBuckets)}
    {f : Fittings} {counted : Bool} (writes : topology.Writes f counted)
    {stage : Stage (RehearsalServices MemoryBuckets)}
    {first after : List (Stage (RehearsalServices MemoryBuckets))}
    (split : topology.stages = first ++ stage :: after) :
    after = [] ∧ stage = f.stage (.write counted) ∨ after ≠ [] ∧ stage.Preparatory := by
  obtain ⟨before, stages, prepares⟩ := writes
  rw [stages] at split
  cases after with
  | nil =>
    obtain ⟨-, last⟩ := List.append_inj' split rfl
    exact .inl ⟨rfl, (List.cons.inj last).1.symm⟩
  | cons next rest =>
    have shorter := congrArg List.dropLast split
    rw [List.dropLast_concat, List.dropLast_append_cons, List.dropLast_cons_cons] at shorter
    refine .inr ⟨List.cons_ne_nil _ _, prepares stage ?_⟩
    rw [shorter]
    exact List.mem_append_right _ List.mem_cons_self

/-- How a task of `n` records stands that writes under a query, once some of them have come to
their ends. -/
structure Underway (topology : Topology (RehearsalServices MemoryBuckets)) (query : DatasetInput)
    (id : TaskId) (n : Nat) (p : MemoryPlant (RehearsalServices MemoryBuckets))
    (reported : List Outcome) : Prop where
  reliable : Reliable p.services
  bound : ∀ m ∈ p.queue.messages, m.topic ∈ topology.topics →
    m.envelope.taskId = id ∧ m.envelope.GoesTo query
  total : p.queue.out id + reported.length = n
  record : ∃ t, p.progress id = some t ∧ Tally reported n t
  /-- What is listed is what was forwarded. -/
  listed : (p.services.archive.entriesOf query).length = forwardedOf reported

namespace Underway

variable {topology : Topology (RehearsalServices MemoryBuckets)} {f : Fittings} {counted : Bool}
  {query : DatasetInput} {id : TaskId} {n : Nat}
  {p p' : MemoryPlant (RehearsalServices MemoryBuckets)} {reported : List Outcome}
  {m : StoredMessage} {services : RehearsalServices MemoryBuckets}

/-- While a message of it is out, a task is in progress. -/
theorem processing (h : Underway topology query id n p reported) (out : m ∈ p.queue.messages)
    (own : m.envelope.taskId = id) : reported.length < n ∧
      ∃ t, p.progress id = some t ∧ t.state = .processing ∧ Tally reported n t := by
  have total := h.total
  have acked := MemoryQueue.out_ack id out
  rw [if_pos own] at acked
  have less : reported.length < n := by omega
  obtain ⟨t, known, tally⟩ := h.record
  obtain ⟨processing, -⟩ := tally.state.resolve_right fun ⟨_, full⟩ => by omega
  exact ⟨less, t, known, processing, tally⟩

/-- **A record that goes on** is out before and afterwards. -/
theorem onward (h : Underway topology query id n p reported) (out : m ∈ p.queue.messages)
    (own : m.envelope.taskId = id) {topic : String} {partition : Nat} {e : Envelope}
    (task : e.taskId = id) (goes : e.GoesTo query) (reliable : Reliable services)
    (same : services.archive.entriesOf query = p.services.archive.entriesOf query) :
    Underway topology query id n
      { p with
        queue := (p.queue.publish topic partition e).2.ack m.id
        services := services } reported := by
  refine ⟨reliable, fun m' mem inside => ?_, ?_, h.record, ?_⟩
  · have between := List.mem_of_mem_filter mem
    rw [MemoryQueue.messages_publish, List.mem_append, List.mem_singleton] at between
    rcases between with before | rfl
    · exact h.bound m' before inside
    · exact ⟨task, goes⟩
  · have published := MemoryQueue.out_publish id topic partition e p.queue
    have acked := MemoryQueue.out_ack id (MemoryQueue.mem_publish topic partition e out)
    have total := h.total
    rw [if_pos task] at published
    rw [if_pos own] at acked
    show ((p.queue.publish topic partition e).2.ack m.id).out id + reported.length = n
    omega
  · show (services.archive.entriesOf query).length = _
    rw [same, h.listed]

/-- **A record that ends** is reported, and listed if it was forwarded. -/
theorem ended (h : Underway topology query id n p reported) (out : m ∈ p.queue.messages)
    (own : m.envelope.taskId = id) {outcome : Outcome} (task : outcome.task = id)
    (now : Timestamp) (reliable : Reliable services)
    (more : (services.archive.entriesOf query).length
      = (p.services.archive.entriesOf query).length + forwardedOf [outcome]) :
    Underway topology query id n
      { p.told (Worker.ending now m.envelope.taskId outcome) with
        queue := p.queue.ack m.id
        services := services } (reported ++ [outcome]) := by
  obtain ⟨less, t, known, -, tally⟩ := h.processing out own
  refine ⟨reliable, fun m' mem inside => h.bound m' (List.mem_of_mem_filter mem) inside, ?_, ?_, ?_⟩
  · have acked := MemoryQueue.out_ack id out
    have total := h.total
    rw [if_pos own] at acked
    rw [List.length_append, List.length_singleton]
    show (p.queue.ack m.id).out id + (reported.length + 1) = n
    omega
  · have progress := p.progress_told (Worker.ending now m.envelope.taskId outcome) id
    rw [own, Worker.task_ending now task, if_pos rfl, known, Tracker.Call.after,
      Worker.change?_ending, Worker.now_ending] at progress
    rw [own]
    exact ⟨_, progress, tally.count less outcome⟩
  · show (services.archive.entriesOf query).length = _
    rw [more, h.listed, forwardedOf, forwardedOf, forwardedOf, List.countP_append]

variable {interval : Millis} {batch : Nat} {w : Worker (RehearsalServices MemoryBuckets)}

/-- **The handling of a message** keeps how the task stands. -/
theorem handles (h : Underway topology query id n p reported) (writes : topology.Writes f counted)
    (mem : w ∈ (Runner.new [topology] interval batch).workers) {d : Delivery}
    (held : Holds p.queue d) (topic : d.topic = w.topic) (handles : w.Handles d p p') :
    ∃ reported', Underway topology query id n p' reported' := by
  obtain ⟨m, out, -, rfl⟩ := held
  obtain ⟨here, first, after, split, place, next⟩ := Runner.mem_workers_new mem
  obtain rfl : w.topology = topology := List.mem_singleton.1 here
  have inside : m.topic ∈ w.topology.topics := by
    rw [show m.topic = w.topic from topic, place, Topology.topics, split]
    exact List.mem_map_of_mem (List.mem_append_right _ List.mem_cons_self)
  obtain ⟨own, goes⟩ := h.bound m out inside
  obtain ⟨-, t, known, processing, -⟩ := h.processing out own
  cases handles with
  | void found dropped =>
    rename_i t'
    have found : p.progress m.envelope.taskId = some t' := found
    rw [own, known] at found
    cases found
    rw [processing] at dropped
    cases dropped
  | onward live run hands =>
    rename_i topic' e services
    have run : w.stage.run m.envelope p.services = (.forward e, services) := run
    -- a stage that hands records on is not the last one
    have prepares : w.stage.Preparatory := by
      rcases writes.stage_cases split with ⟨last, -⟩ | ⟨-, prepares⟩
      · rw [last, hands] at next
        cases next
      · exact prepares
    obtain ⟨reliable, same⟩ := listed_run_preparatory prepares h.reliable query run
    have bound := Stage.bound_run prepares.bound m.envelope p.services
    rw [run] at bound
    exact ⟨reported, h.onward out own (bound.1.trans own) (bound.2 e rfl query goes) reliable same⟩
  | ended live run leaves =>
    rename_i outcome services
    have run : w.stage.run m.envelope p.services = (outcome, services) := run
    have ends : Bound m.envelope outcome ∧ Reliable services ∧
        (services.archive.entriesOf query).length
          = (p.services.archive.entriesOf query).length + forwardedOf [outcome] := by
      rcases writes.stage_cases split with ⟨-, last⟩ | ⟨others, prepares⟩
      · rw [last] at run
        have bound : Bound m.envelope
            ((f.stage (.write counted)).run m.envelope p.services).1 :=
          Stage.bound_run (fun e => bound_writeStage f.policy _ _ e) _ _
        rw [run] at bound
        exact ⟨bound, listed_run_write h.reliable goes run⟩
      · have bound := Stage.bound_run prepares.bound m.envelope p.services
        rw [run] at bound
        obtain ⟨reliable, same⟩ := listed_run_preparatory prepares h.reliable query run
        -- a record that is forwarded here does not end
        have ending : outcome.counter ≠ .processed := by
          intro processed
          obtain ⟨e, forward⟩ := Outcome.counter_eq_processed_iff.1 processed
          have none := leaves e forward
          rw [next, Option.map_eq_none_iff, List.head?_eq_none_iff] at none
          exact others none
        exact ⟨bound, reliable, by simp [same, forwardedOf, ending]⟩
    obtain ⟨bound, reliable, more⟩ := ends
    exact ⟨_, h.ended out own (bound.1.trans own) _ reliable more⟩

/-- **A poll** keeps how the task stands. -/
theorem poll (h : Underway topology query id n p reported) (writes : topology.Writes f counted)
    (mem : w ∈ (Runner.new [topology] interval batch).workers) :
    ∃ reported', Underway topology query id n (w.poll p).2 reported' := by
  refine (w.poll_induction (I := fun _ q => ∃ reported', Underway topology query id n q reported')
    p ⟨reported, ?_⟩ ?_).2
  · refine ⟨h.reliable, fun m mem inside => ?_, ?_, h.record, h.listed⟩
    · have mem := List.mem_map_of_mem mem (f := fun m => (m.topic, m.envelope))
      rw [Worker.claimed, MemoryQueue.map_claim (fun m => (m.topic, m.envelope)) fun _ => rfl]
        at mem
      obtain ⟨m', before, equal⟩ := List.mem_map.1 mem
      simp only [Prod.mk.injEq] at equal
      rw [← equal.1] at inside
      rw [← equal.2]
      exact h.bound m' before inside
    · rw [Worker.claimed, MemoryQueue.out_claim]
      exact h.total
  · rintro _ d q q' ⟨reported', so_far⟩ held topic - handles
    exact so_far.handles writes mem held topic handles

end Underway

/-! ## From the submission of a task to its follow-up -/

/-- Whether the records of a task are written under a query. -/
def Task.WritesTo (query : DatasetInput) (task : Task) : Prop :=
  task.parameter? Parameter.providerId = some query.provider ∧
    task.parameter? Parameter.outputDataset = some query.dataset ∧
    task.parameter? Parameter.newRepresentationName = some query.representation ∧
    task.outputRevision.map Revision.name = some query.revision.name

theorem SourceRecord.goesTo_envelope {query : DatasetInput} {task : Task}
    (h : task.WritesTo query) (r : SourceRecord) : (r.envelope task).GoesTo query := by
  obtain ⟨provider, dataset, representation, revision⟩ := h
  rw [Task.parameter?] at provider dataset representation
  rw [envelope]
  cases r.routingKey <;> cases r.deleted <;>
    simp [Envelope.GoesTo, Envelope.parameter?, Envelope.withParameter, Envelope.ofTask,
      Parameter.routingKey, Parameter.markedDeleted, Parameter.providerId,
      Parameter.outputDataset, Parameter.newRepresentationName] <;>
    exact ⟨provider, dataset, representation, by simpa using revision⟩

/-- A plant that is ready for a task which writes under a query: nothing is known of the task, no
message of it is out and none waits on its way, and nothing is listed yet. -/
structure Ready (topology : Topology (RehearsalServices MemoryBuckets)) (id : TaskId)
    (query : DatasetInput) (p : MemoryPlant (RehearsalServices MemoryBuckets)) : Prop where
  reliable : Reliable p.services
  clear : ∀ m ∈ p.queue.messages, m.topic ∉ topology.topics
  unknown : p.progress id = none
  none : p.queue.out id = 0
  unlisted : p.services.archive.entriesOf query = []

section

variable {topology : Topology (RehearsalServices MemoryBuckets)} {query : DatasetInput}
  {s : Submitter (RehearsalServices MemoryBuckets)} {task : Task} {submission : Submission}
  {p q : MemoryPlant (RehearsalServices MemoryBuckets)}

/-- **A task that is submitted** is underway. -/
theorem Underway.submit (ready : Ready topology task.id query p) (goes : task.WritesTo query)
    (found : s.topologies.get? task.topology = some topology) (unchained : topology.chained = false)
    (feeds : Beside p.services ((s.source task).tell p.services).services)
    (accepted : s.submit task p = (.ok submission, q)) :
    Underway topology query task.id submission.published q [] := by
  cases told : (s.source task).tell p.services with
  | mk records services error =>
  rw [told] at feeds
  cases error with
  | some err =>
    rw [Submitter.submit_of_broken found unchained (.inr ready.unknown) told] at accepted
    cases accepted
  | none =>
    rw [Submitter.submit_of_told found unchained (.inr ready.unknown) told] at accepted
    obtain ⟨answer, rfl⟩ := Prod.mk.inj accepted
    obtain rfl := Except.ok.inj answer
    obtain ⟨new, messages, envelopes, -⟩ := messages_publishing topology task records p.queue
    refine ⟨ready.reliable.beside feeds, fun m mem inside => ?_, ?_, ?_, ?_⟩
    · have mem : m ∈ p.queue.messages ++ new := by
        rw [← messages]
        exact mem
      rcases List.mem_append.1 mem with before | fresh
      · exact absurd inside (ready.clear m before)
      · have envelope := List.mem_map_of_mem fresh (f := StoredMessage.envelope)
        rw [envelopes] at envelope
        obtain ⟨r, -, same⟩ := List.mem_map.1 envelope
        rw [← same]
        exact ⟨r.taskId_envelope task, r.goesTo_envelope goes⟩
    · show (publishing topology task records p.queue).out task.id + 0 = records.length
      rw [out_publishing, ready.none, if_pos rfl]
      omega
    · have begun := s.progress_accepted topology (.inr ready.unknown) task.id
      rw [if_pos rfl] at begun
      have progress : ((s.published topology task records services p).told
            (.setExpected (Clock.now services) task.id records.length)).progress task.id
          = some ((Tracker.Change.expect records.length).revise (Clock.now services)
            (s.begun topology task (Clock.now p))) := by
        rw [Plant.progress_told]
        exact (if_pos rfl).trans (congrArg (Tracker.Call.after _) begun)
      exact ⟨_, progress, Tally.expect rfl rfl (fun c => by cases c <;> rfl) records.length⟩
    · show (services.archive.entriesOf query).length = 0
      rw [show services.archive = p.services.archive from feeds.archive, ready.unlisted]
      rfl

end

theorem underway_polled {topology : Topology (RehearsalServices MemoryBuckets)} {f : Fittings}
    {counted : Bool} {query : DatasetInput} {id : TaskId} {n : Nat}
    {p : MemoryPlant (RehearsalServices MemoryBuckets)} {reported : List Outcome}
    (h : Underway topology query id n p reported) (writes : topology.Writes f counted)
    {workers : List (Worker (RehearsalServices MemoryBuckets))}
    (own : ∀ w ∈ workers, ∃ interval batch, w ∈ (Runner.new [topology] interval batch).workers) :
    ∃ reported', Underway topology query id n (p.polled workers) reported' := by
  refine Plant.polled_induction (P := fun p => ∃ reported, Underway topology query id n p reported)
    (fun w mem p underway => ?_) ⟨reported, h⟩
  obtain ⟨reported, underway⟩ := underway
  obtain ⟨interval, batch, works⟩ := own w mem
  exact underway.poll writes works

/-- A task that is submitted to follow up another: its records are those which the archive lists
under a query. -/
structure FollowsUp (s : Submitter (RehearsalServices MemoryBuckets)) (task : Task)
    (previous : TaskId) (query : DatasetInput)
    (p : MemoryPlant (RehearsalServices MemoryBuckets)) : Prop where
  chained : ∃ topology, s.topologies.get? task.topology = some topology ∧ topology.chained = true
  source : ∃ policy, s.source = datasetRevisions (Exchange.metadata exchangePart) policy
  previous : task.previous? = some previous
  input : task.input = .datasets [query]
  free : task.restart = true ∨ p.progress task.id = none

/-- **What a follow-up task gets and expects**: it gets what the task before it has processed, and
expects what that has removed as well. -/
theorem published_of_followup {f : Fittings} {counted : Bool}
    {topology : Topology (RehearsalServices MemoryBuckets)} (writes : topology.Writes f counted)
    (unchained : topology.chained = false)
    {s : Submitter (RehearsalServices MemoryBuckets)} {task : Task}
    (found : s.topologies.get? task.topology = some topology) {query : DatasetInput}
    (goes : task.WritesTo query) {p q : MemoryPlant (RehearsalServices MemoryBuckets)}
    (ready : Ready topology task.id query p)
    (feeds : Beside p.services ((s.source task).tell p.services).services)
    {submission : Submission} (accepted : s.submit task p = (.ok submission, q))
    (countable : submission.published ≤ Text.maxUnsigned)
    {workers : List (Worker (RehearsalServices MemoryBuckets))}
    (own : ∀ w ∈ workers, ∃ interval batch, w ∈ (Runner.new [topology] interval batch).workers)
    {t : TaskInfo} (known : (q.polled workers).progress task.id = some t)
    {s' : Submitter (RehearsalServices MemoryBuckets)} {followup : Task}
    (follows : FollowsUp s' followup task.id query (q.polled workers)) :
    ∃ submission' q', s'.submit followup (q.polled workers) = (.ok submission', q') ∧
      (submission'.published : Int) = t.processed ∧
      submission'.expected = t.processed + t.deleted ∧
      (submission'.published = submission'.expected ↔ t.deleted = 0) := by
  have began := Underway.submit ready goes found unchained feeds accepted
  obtain ⟨reported, underway⟩ := underway_polled began writes own
  obtain ⟨t', known', tally⟩ := underway.record
  rw [known] at known'
  cases known'
  have written : t.processed = forwardedOf reported := tally.counts .processed
  have removed : t.deleted = reported.countP (·.counter = .deleted) := tally.counts .deleted
  -- no outcome of a stage is counted as dealt with afterwards
  have none : t.postProcessed = 0 := by
    have counts : t.postProcessed = reported.countP (·.counter = .postProcessed) :=
      tally.counts .postProcessed
    rw [counts, List.countP_eq_zero.2 fun outcome _ => by cases outcome <;> simp [Outcome.counter]]
    rfl
  have forwarded : t.forwarded = t.processed + t.deleted := by
    rw [TaskInfo.forwarded, none, Int.add_zero]
  have few : ∀ query' ∈ [query], ((q.polled workers).services.archive.entriesOf query').length
      ≤ Text.maxUnsigned := by
    intro query' mem
    obtain rfl := List.mem_singleton.1 mem
    have le : forwardedOf reported ≤ reported.length := List.countP_le_length
    have total := underway.total
    rw [underway.listed]
    omega
  obtain ⟨policy, source⟩ := follows.source
  obtain ⟨chain, found', chained⟩ := follows.chained
  obtain ⟨services, -, told⟩ :=
    tell_datasetRevisions policy follows.input underway.reliable.inOrder few
  rw [← source] at told
  obtain ⟨q', submitted⟩ := Submitter.submit_of_chained found' chained follows.previous known
    (by rw [forwarded, unknownCount]; omega) follows.free told
  refine ⟨_, q', submitted, ?_, forwarded, ?_⟩
  all_goals
    simp only [List.flatMap_singleton, List.length_map, underway.listed, forwarded]
    omega

/-! ## A book that is gone -/

def stockQuery : DatasetInput := ⟨"library", "stock", "raw", .new "harvested" "library" .epoch⟩

def stockUrl (record : String) : String :=
  "http://store/records/" ++ record ++ "/representations/raw/versions/1/files/text"

def stockEntry (record : String) (deleted : Bool) : ListedEntry :=
  ⟨"library", "stock", "harvested", ⟨record, "raw", "1", stockUrl record, deleted⟩⟩

/-- Services that list a book and one that is gone. -/
def stockServices : RehearsalServices MemoryBuckets :=
  let depot := depotPart.get (shelfServices [])
  depotPart.set
    { depot.put (stockUrl "book") [60] with
      archive := (depot.archive.enlist (stockEntry "book" false)).enlist
        (stockEntry "lost" true) }
    (shelfServices [])

def plainEntry (stage : Stage (RehearsalServices MemoryBuckets)) :
    StageEntry (RehearsalServices MemoryBuckets) := ⟨stage, none, Dict.empty⟩

def shelvingTopology : Topology (RehearsalServices MemoryBuckets) where
  name := "shelving"
  partitions := 1
  chained := false
  entries := [plainEntry (shelfFittings.stage (.read false)),
    plainEntry (shelfFittings.stage (.write true))]
  entries_ne_nil := List.cons_ne_nil _ _
  partitions_pos := Nat.one_pos
  names_nodup := by decide

def browsingTopology : Topology (RehearsalServices MemoryBuckets) where
  name := "browsing"
  partitions := 1
  chained := true
  entries := [plainEntry (shelfFittings.stage (.read true))]
  entries_ne_nil := List.cons_ne_nil _ _
  partitions_pos := Nat.one_pos
  names_nodup := by decide

def librarySubmitter : Submitter (RehearsalServices MemoryBuckets) where
  topologies := (Dict.empty.insert "shelving" shelvingTopology).insert "browsing" browsingTopology
  source := datasetRevisions (Exchange.metadata exchangePart) .none
  policy := .none
  owner := none

def shelvingTask : Task :=
  { Task.new ⟨1⟩ "shelve" "shelving" with
    parameters := Dict.ofList [(Parameter.providerId, "library"),
      (Parameter.outputDataset, "shelf"), (Parameter.newRepresentationName, "edm")]
    input := .datasets [stockQuery]
    outputRevision := some shelfQuery.revision }

def browsingTask : Task :=
  { Task.new ⟨2⟩ "browse" "browsing" with
    parameters := Dict.ofList [(Parameter.previousTaskId, "1")]
    input := .datasets [shelfQuery] }

def stockPlant : MemoryPlant (RehearsalServices MemoryBuckets) := ⟨.empty, .empty, stockServices⟩

/-- The book is shelved, and the lost one removed. -/
def shelvedPlant : MemoryPlant (RehearsalServices MemoryBuckets) :=
  (librarySubmitter.submit shelvingTask stockPlant).2.polled
    (Runner.new [shelvingTopology] 1 10).workers

/-- What was shelved is browsed. -/
def browsedPlant : MemoryPlant (RehearsalServices MemoryBuckets) :=
  (librarySubmitter.submit browsingTask shelvedPlant).2.polled
    (Runner.new [browsingTopology] 1 10).workers

theorem published_of_followup_lost : ∃ t submission q, shelvedPlant.progress ⟨1⟩ = some t ∧
    t.processed = 1 ∧ t.deleted = 1 ∧
    librarySubmitter.submit browsingTask shelvedPlant = (.ok submission, q) ∧
    (submission.published : Int) = t.processed ∧
    submission.expected = t.processed + t.deleted := by
  have writes : shelvingTopology.Writes shelfFittings true := by
    refine ⟨[shelfFittings.stage (.read false)], rfl, fun stage mem => ?_⟩
    obtain rfl := List.mem_singleton.1 mem
    exact preparatory_stage shelfFittings (by simp) (by simp)
  have ready : Ready shelvingTopology shelvingTask.id shelfQuery stockPlant :=
    ⟨⟨⟨rfl, rfl, rfl, rfl, rfl⟩, fun op => by cases op <;> rfl⟩,
      by simp [stockPlant, MemoryQueue.empty], rfl, rfl, by decide +kernel⟩
  obtain ⟨services, beside, told⟩ := tell_datasetRevisions .none
    (show shelvingTask.input = .datasets [stockQuery] from rfl) ready.reliable.inOrder
    (by decide +kernel)
  have feeds : Beside stockServices
      ((librarySubmitter.source shelvingTask).tell stockServices).services := by
    rw [show (librarySubmitter.source shelvingTask).tell stockServices = _ from told]
    exact beside
  have accepted : (librarySubmitter.submit shelvingTask stockPlant).1
      = .ok ⟨⟨1⟩, "shelving.read", 2, 2⟩ := by decide +kernel
  have counts : (shelvedPlant.progress ⟨1⟩).map (fun t => (t.processed, t.deleted))
      = some (1, 1) := by decide +kernel
  obtain ⟨t, known, both⟩ := Option.map_eq_some_iff.1 counts
  obtain ⟨processed, deleted⟩ := Prod.mk.inj both
  have follows : FollowsUp librarySubmitter browsingTask ⟨1⟩ shelfQuery shelvedPlant :=
    ⟨⟨browsingTopology, rfl, rfl⟩, ⟨.none, rfl⟩, by decide +kernel, rfl, .inr (by decide +kernel)⟩
  obtain ⟨submission, q, submitted, published, expected, -⟩ := published_of_followup writes rfl
    (show librarySubmitter.topologies.get? shelvingTask.topology = some shelvingTopology from rfl)
    (show shelvingTask.WritesTo shelfQuery from ⟨rfl, rfl, rfl, rfl⟩) ready feeds
    (Prod.ext accepted rfl) (by decide) (fun w mem => ⟨1, 10, mem⟩) known follows
  exact ⟨t, submission, q, known, processed, deleted, submitted, published, expected⟩

/-- **A follow-up task that never ends**: one record is published for it, which is through, but it
expects two. -/
theorem followup_never_ends :
    (shelvedPlant.progress ⟨1⟩).map (fun t => (t.state, t.processed, t.deleted))
      = some (.processed, 1, 1) ∧
    (librarySubmitter.submit browsingTask shelvedPlant).1
      = .ok ⟨⟨2⟩, "browsing.read", 1, 2⟩ ∧
    (browsedPlant.progress ⟨2⟩).map (fun t => (t.state, t.expected, t.processed))
      = some (.processing, 2, 1) ∧
    browsedPlant.queue.messages = [] := by
  decide +kernel

end Conveyor
