import Conveyor.Proofs.Keeping
import Conveyor.Proofs.Runner.Handling
import Conveyor.Submission.Basic

/-!
# What a submission does to a plant in memory

A submission first looks up what its task can expect.  To a topology that is not chained it then
either is refused and changes nothing, or registers and starts the task and publishes the records
that the feed of the task tells.  Once the feed has ended, their number is expected; if the feed
breaks off, the task fails.

* `Feed.tell` — the records that a feed tells, what it leaves of the services, and the error on
  which it breaks off.
* `publishing` — a queue with the records of a task on the first topic.
* `Submitter.submit_eq` — a submission looks up what its task can expect, and then proceeds;
  **`Submitter.submit_of_expecting`** — whatever it has found, if the feed ends.
* **`Submitter.submit_of_told`**, **`Submitter.submit_of_broken`** — a submission that is accepted;
  `submit_of_unknown` and `submit_of_taken` — one that is refused.
* **`Submitter.publishes_submit`** — what any submission does to the queue.
-/

namespace Conveyor

variable {V : Type}

/-- What a feed tells. -/
structure Telling (V : Type) where
  records : List SourceRecord
  /-- What it leaves of the services. -/
  services : V
  /-- The error on which it breaks off. -/
  error : Option StepError

/-- How many records were told, or the error on which the telling broke off. -/
def Telling.answer (t : Telling V) : Except StepError Nat :=
  match t.error with
  | none => .ok t.records.length
  | some err => .error err

/-- What a feed tells in a state of the services. -/
def Feed.tell : Feed V → V → Telling V
  | .done, v => ⟨[], v, none⟩
  | .broken err, v => ⟨[], v, some err⟩
  | .record r rest, v => { rest.tell v with records := r :: (rest.tell v).records }
  | .ask call rest, v =>
      match call v with
      | (.ok answer, v) => (rest answer).tell v
      | (.error err, v) => ⟨[], v, some err⟩

theorem Feed.tell_ofResources (names : List String) (v : V) :
    (Feed.ofResources names).tell v = ⟨names.map SourceRecord.ofResource, v, none⟩ := by
  induction names with
  | nil => rfl
  | cons name rest ih =>
    show ({ (Feed.ofResources rest).tell v with
      records := .ofResource name :: ((Feed.ofResources rest).tell v).records } : Telling V) = _
    rw [ih]
    rfl

@[simp] theorem SourceRecord.taskId_envelope (task : Task) (r : SourceRecord) :
    (r.envelope task).taskId = task.id := by
  rw [envelope]
  cases r.routingKey <;> cases r.deleted <;> rfl

/-! ## Publication -/

/-- A queue with the records of a task on the first topic of its topology. -/
def publishing (topology : Topology V) (task : Task) (records : List SourceRecord)
    (q : MemoryQueue) : MemoryQueue :=
  records.foldl (fun q r =>
    (q.publish topology.entryTopic (topology.partitionFor (r.envelope task))
      (r.envelope task)).2) q

section

variable (topology : Topology V) (task : Task) (records : List SourceRecord) (q : MemoryQueue)

/-- **The messages that a submission publishes** wait behind all others, one for every record. -/
theorem messages_publishing : ∃ new : List StoredMessage,
    (publishing topology task records q).messages = q.messages ++ new ∧
    new.map StoredMessage.envelope = records.map (SourceRecord.envelope task) ∧
    ∀ m ∈ new, m.topic = topology.entryTopic ∧ m.partition = topology.partitionFor m.envelope ∧
      m.inFlight = false := by
  induction records generalizing q with
  | nil => exact ⟨[], by simp [publishing]⟩
  | cons r rest ih =>
    obtain ⟨new, messages, envelopes, places⟩ := ih
      (q.publish topology.entryTopic (topology.partitionFor (r.envelope task))
        (r.envelope task)).2
    refine ⟨⟨⟨q.issued + 1⟩, topology.entryTopic, topology.partitionFor (r.envelope task),
      r.envelope task, false, 0⟩ :: new, ?_, ?_, ?_⟩
    · rw [MemoryQueue.messages_publish, List.append_assoc] at messages
      exact messages
    · rw [List.map_cons, envelopes, List.map_cons]
    · intro m mem
      rcases List.mem_cons.1 mem with rfl | mem
      · simp only [and_self]
      · exact places m mem

/-- What stands in the queue stood there before, or is new and waits on its partition. -/
theorem mem_publishing {m : StoredMessage}
    (h : m ∈ (publishing topology task records q).messages) :
    m ∈ q.messages ∨ ((q.issued : Int) < m.id.value ∧ m.topic = topology.entryTopic ∧
      m.partition = topology.partitionFor m.envelope ∧ m.inFlight = false) := by
  induction records generalizing q with
  | nil => exact .inl h
  | cons r rest ih =>
    rcases ih _ h with between | ⟨fresh, place⟩
    · rw [MemoryQueue.messages_publish, List.mem_append, List.mem_singleton] at between
      rcases between with before | rfl
      · exact .inl before
      · refine .inr ⟨Int.lt_succ _, ?_⟩
        simp only [and_self]
    · rw [MemoryQueue.issued_publish] at fresh
      exact .inr ⟨by omega, place⟩

theorem issued_publishing :
    (publishing topology task records q).issued = q.issued + records.length := by
  induction records generalizing q with
  | nil => rfl
  | cons r rest ih =>
    have := ih (q.publish topology.entryTopic (topology.partitionFor (r.envelope task))
      (r.envelope task)).2
    rw [MemoryQueue.issued_publish] at this
    rw [List.length_cons, publishing, List.foldl_cons, ← publishing, this]
    omega

theorem out_publishing (id : TaskId) :
    (publishing topology task records q).out id
      = q.out id + if task.id = id then records.length else 0 := by
  induction records generalizing q with
  | nil => simp [publishing]
  | cons r rest ih =>
    have := ih (q.publish topology.entryTopic (topology.partitionFor (r.envelope task))
      (r.envelope task)).2
    rw [MemoryQueue.out_publish, SourceRecord.taskId_envelope] at this
    rw [List.length_cons, publishing, List.foldl_cons, ← publishing, this]
    split <;> omega

end

/-! ## Submission -/

namespace Submitter

section

variable {Q T N : Type} [MessageQueue Q] [TaskStore T] [Clock V]

/-- What a submission looks up before it registers its task. -/
def look (s : Submitter V) (topology : Topology V) (task : Task) :
    Action (Plant Q T N V) SubmitError Int :=
  if topology.chained then s.expectedFromPrevious task else pure unknownCount

/-- What a submission does once it knows how many records its task can expect. -/
def proceed (s : Submitter V) (topology : Topology V) (task : Task) (known : Int) :
    Action (Plant Q T N V) SubmitError Submission := do
  s.accept topology task known
  let published ← s.publishOrFail topology task
  let expected : Int := if known = unknownCount then published else known
  (Plant.report fun now => Tracker.setExpected now task.id expected).mapError .tracker
  pure ⟨task.id, topology.entryTopic, published, expected⟩

/-- **A submission to a known topology** looks, and then proceeds by what it has found. -/
theorem submit_eq {s : Submitter V} {topology : Topology V} {task : Task}
    (found : s.topologies.get? task.topology = some topology) :
    (s.submit task : Action (Plant Q T N V) SubmitError Submission)
      = s.look topology task >>= s.proceed topology task := by
  rw [submit, found, look]
  cases chained : topology.chained with
  | true =>
    simp only [chained, if_true]
    rfl
  | false =>
    simp only [chained]
    rfl

end

theorem publishRecord_apply (topology : Topology V) (task : Task) (r : SourceRecord)
    (p : MemoryPlant V) :
    publishRecord topology task r p
      = (.ok (), { p with
          queue := (p.queue.publish topology.entryTopic
            (topology.partitionFor (r.envelope task)) (r.envelope task)).2 }) := rfl

/-- **The records of a feed are published** up to where it ends or breaks off. -/
theorem each_publishRecord (reword : StepError → SubmitError) (topology : Topology V)
    (task : Task) (feed : Feed V) (p : MemoryPlant V) :
    feed.each Plant.servicesPart reword (publishRecord topology task) p
      = ((feed.tell p.services).answer.mapError reword,
        { p with
          queue := publishing topology task (feed.tell p.services).records p.queue
          services := (feed.tell p.services).services }) := by
  induction feed generalizing p with
  | done => rfl
  | broken err => rfl
  | record r rest ih =>
    rw [Feed.each, Action.bind_of_ok (publishRecord_apply topology task r p), Action.bind_apply, ih]
    simp only [Feed.tell, Telling.answer]
    cases (rest.tell p.services).error with
    | none => rfl
    | some err => rfl
  | ask call rest ih =>
    cases run : call p.services with
    | mk answer services =>
      have asked : ((call.on Plant.servicesPart).mapError reword) p
          = (answer.mapError reword, { p with services := services }) := by
        simp only [Action.mapError, Action.on_apply, Plant.servicesPart, run]
        cases answer <;> rfl
      cases answer with
      | ok a =>
        rw [Feed.each, Action.bind_of_ok asked, ih a { p with services := services }]
        simp only [Feed.tell, run]
      | error err =>
        rw [Feed.each, Action.bind_of_error asked]
        simp only [Feed.tell, run]
        rfl

variable [Clock V] {s : Submitter V} {task : Task} {topology : Topology V} {p : MemoryPlant V}

/-- A plant in which a task was accepted. -/
def accepted (s : Submitter V) (topology : Topology V) (task : Task) (p : MemoryPlant V) :
    MemoryPlant V :=
  (p.told (.register (Clock.now p) task.id topology.name unknownCount s.owner
    task.restart)).told (.start (Clock.now p) task.id)

/-- A plant in which some records of an accepted task were published. -/
def published (s : Submitter V) (topology : Topology V) (task : Task)
    (records : List SourceRecord) (services : V) (p : MemoryPlant V) : MemoryPlant V :=
  { s.accepted topology task p with
    queue := publishing topology task records p.queue
    services := services }

theorem register_apply (s : Submitter V) (topology : Topology V) (task : Task) (expected : Int)
    (p : MemoryPlant V) :
    Plant.onTracker (Tracker.register
        (.new (Clock.now p) task.id topology.name expected s.owner) task.restart) p
      = if task.restart || (p.progress task.id).isNone then
          (.ok (), p.told (.register (Clock.now p) task.id topology.name expected
            s.owner task.restart))
        else (.error (takenError task.id), p) := by
  have tracker := Tracker.register_apply
    (.new (Clock.now p) task.id topology.name expected s.owner) task.restart p.tracker
  have call := Tracker.Call.run_register (Clock.now p) task.id topology.name expected
    s.owner task.restart p.tracker
  have number : (TaskInfo.new (Clock.now p) task.id topology.name expected
    s.owner).id = task.id := rfl
  rw [number] at tracker
  simp only [Plant.onTracker, Action.on_apply, Plant.trackerPart, Plant.told, Plant.progress]
  rw [tracker, call]
  split <;> rfl

/-- A task whose number is free is registered, with the number of records that it can expect, and
put in progress. -/
theorem accept_expecting (free : task.restart = true ∨ p.progress task.id = none)
    (expected : Int) :
    s.accept topology task expected p
      = (.ok (), (p.told (.register (Clock.now p) task.id topology.name expected s.owner
          task.restart)).told (.start (Clock.now p) task.id)) := by
  have registered := register_apply s topology task expected p
  rw [if_pos (by simpa using free)] at registered
  obtain ⟨a, started⟩ := Plant.report_of_map (x := fun now => Tracker.start now task.id)
    (c := .start (Clock.now p) task.id)
    (p.told (.register (Clock.now p) task.id topology.name expected s.owner
      task.restart)) rfl rfl
  rw [accept, Action.bind_of_ok (Action.gets_apply ..),
    Action.bind_of_ok (Action.mapError_of_ok _ registered),
    Action.bind_of_ok (Action.mapError_of_ok _ started)]
  rfl

theorem accept_of_free (free : task.restart = true ∨ p.progress task.id = none) :
    s.accept topology task unknownCount p = (.ok (), s.accepted topology task p) :=
  accept_expecting free unknownCount

theorem accept_of_taken {t : TaskInfo} (keep : task.restart = false)
    (known : p.progress task.id = some t) :
    s.accept topology task unknownCount p = (.error (.alreadyExists task.id), p) := by
  have registered := register_apply s topology task unknownCount p
  rw [if_neg (by simp [keep, known])] at registered
  rw [accept, Action.bind_of_ok (Action.gets_apply ..),
    Action.bind_of_error (Action.mapError_of_error _ registered)]
  rfl

/-- The record of a task that has just come into progress. -/
def begun (s : Submitter V) (topology : Topology V) (task : Task) (now : Timestamp) : TaskInfo :=
  (TaskInfo.new now task.id topology.name unknownCount s.owner).moved now .processing
    "The task is in progress"

omit [Clock V] in
/-- The registration of a task whose number is free brings a fresh record. -/
theorem after_register (free : task.restart = true ∨ p.progress task.id = none) (now : Timestamp)
    (topology : String) (expected : Int) (owner : Option String) :
    (Tracker.Call.register now task.id topology expected owner task.restart).after
        (p.progress task.id)
      = some (.new now task.id topology expected owner) := by
  rcases free with restart | unknown
  · rw [restart]
    rfl
  · rw [unknown]
    cases task.restart <;> rfl

/-- **An accepted task is in progress**, and no other task is touched. -/
theorem progress_accepted (s : Submitter V) (topology : Topology V)
    (free : task.restart = true ∨ p.progress task.id = none) (id : TaskId) :
    (s.accepted topology task p).progress id
      = if task.id = id then some (s.begun topology task (Clock.now p)) else p.progress id := by
  rw [accepted, Plant.progress_told, Plant.progress_told]
  by_cases same : task.id = id
  · subst same
    simp only [Tracker.Call.task, if_true, after_register free]
    rfl
  · simp [Tracker.Call.task, same]

theorem entries_accepted (s : Submitter V) (topology : Topology V) (task : Task)
    (p : MemoryPlant V) : (s.accepted topology task p).entries = p.entries := by
  rw [accepted, Plant.entries_told, Plant.entries_told]
  simp only [Tracker.Call.announced, List.append_nil]

theorem submit_of_unknown (unknown : s.topologies.get? task.topology = none)
    (p : MemoryPlant V) : s.submit task p = (.error (.unknownTopology task.topology), p) := by
  rw [submit, unknown]
  rfl

theorem look_of_unchained (unchained : topology.chained = false) (p : MemoryPlant V) :
    s.look topology task p = (.ok unknownCount, p) := by
  rw [look, unchained]
  rfl

/-- A plant in which a task was accepted that can expect so many records, and its records were
published. -/
def admitted (s : Submitter V) (topology : Topology V) (task : Task) (known : Int)
    (records : List SourceRecord) (services : V) (p : MemoryPlant V) : MemoryPlant V :=
  { (p.told (.register (Clock.now p) task.id topology.name known s.owner task.restart)).told
      (.start (Clock.now p) task.id) with
    queue := publishing topology task records p.queue
    services := services }

/-- **A submission whose feed ends**, by what the task can expect of another one: that many records,
or as many as are published if it is not known. -/
theorem submit_of_expecting (found : s.topologies.get? task.topology = some topology)
    {known : Int} (looked : s.look topology task p = (.ok known, p))
    (free : task.restart = true ∨ p.progress task.id = none) {records : List SourceRecord}
    {services : V} (told : (s.source task).tell p.services = ⟨records, services, none⟩)
    {expected : Int}
    (expects : expected = if known = unknownCount then (records.length : Int) else known) :
    s.submit task p
      = (.ok ⟨task.id, topology.entryTopic, records.length, expected⟩,
        (s.admitted topology task known records services p).told
          (.setExpected (Clock.now services) task.id expected)) := by
  have accepted : s.accept topology task known p = (.ok (), _) := accept_expecting free known
  -- to accept the task leaves the services alone, so the feed tells what it told before
  have published : s.publishOrFail topology task
      ((p.told (.register (Clock.now p) task.id topology.name known s.owner task.restart)).told
        (.start (Clock.now p) task.id))
      = (.ok records.length, s.admitted topology task known records services p) := by
    have each := each_publishRecord (.source task.id) topology task (s.source task)
      ((p.told (.register (Clock.now p) task.id topology.name known s.owner task.restart)).told
        (.start (Clock.now p) task.id))
    have same : ((p.told (.register (Clock.now p) task.id topology.name known s.owner
      task.restart)).told (.start (Clock.now p) task.id)).services = p.services := rfl
    rw [same, told] at each
    exact Action.recover_of_ok _ each
  have expecting := Plant.report_of_ok
    (x := fun now => Tracker.setExpected now task.id expected)
    (s.admitted topology task known records services p)
    (Tracker.setExpected_apply (Clock.now services) task.id expected _)
  rw [submit_eq found, Action.bind_of_ok looked, proceed, Action.bind_of_ok accepted,
    Action.bind_of_ok published]
  simp only [← expects]
  rw [Action.bind_of_ok (Action.mapError_of_ok _ expecting)]
  rfl

/-- A task whose number is taken is refused, unless it replaces the other. -/
theorem submit_of_taken {t : TaskInfo} (found : s.topologies.get? task.topology = some topology)
    (unchained : topology.chained = false) (keep : task.restart = false)
    (known : p.progress task.id = some t) :
    s.submit task p = (.error (.alreadyExists task.id), p) := by
  rw [submit_eq found, Action.bind_of_ok (look_of_unchained unchained p), proceed,
    Action.bind_of_error (accept_of_taken keep known)]

section

variable (found : s.topologies.get? task.topology = some topology)
  (unchained : topology.chained = false)
  (free : task.restart = true ∨ p.progress task.id = none)
  {records : List SourceRecord} {services : V}

include found unchained free

/-- **A task whose feed ends** is in progress, its records are published, and their number is
expected. -/
theorem submit_of_told (told : (s.source task).tell p.services = ⟨records, services, none⟩) :
    s.submit task p
      = (.ok ⟨task.id, topology.entryTopic, records.length, records.length⟩,
        (s.published topology task records services p).told
          (.setExpected (Clock.now services) task.id records.length)) :=
  submit_of_expecting found (look_of_unchained unchained p) free told (if_pos rfl).symm

/-- **A task whose feed breaks off** has failed, with the records published that were told
before. -/
theorem submit_of_broken {err : StepError}
    (broken : (s.source task).tell p.services = ⟨records, services, some err⟩) :
    s.submit task p
      = (.error (.source task.id err),
        (s.published topology task records services p).told
          (.failTask (Clock.now services) task.id
            (SubmitError.source task.id err).message)) := by
  have incomplete : s.publishRecords topology task (s.accepted topology task p)
      = (.error (.source task.id err), s.published topology task records services p) := by
    have each := each_publishRecord (.source task.id) topology task (s.source task)
      (s.accepted topology task p)
    have same : (s.accepted topology task p).services = p.services := rfl
    rw [same, broken] at each
    exact each
  obtain ⟨a, failed⟩ := Plant.report_of_map
    (x := fun now => Tracker.failTask now task.id (SubmitError.source task.id err).message)
    (c := .failTask (Clock.now services) task.id (SubmitError.source task.id err).message)
    (s.published topology task records services p) rfl rfl
  have answer : s.publishOrFail topology task (s.accepted topology task p)
      = (.error (.source task.id err), (s.published topology task records services p).told
          (.failTask (Clock.now services) task.id
            (SubmitError.source task.id err).message)) := by
    rw [publishOrFail, Action.recover_of_error _ incomplete,
      Action.bind_of_ok (Action.attempt_apply ..), failed]
    rfl
  rw [submit_eq found, Action.bind_of_ok (look_of_unchained unchained p), proceed,
    Action.bind_of_ok (accept_of_free free), Action.bind_of_error answer]

end

end Submitter

/-! ## What any submission publishes -/

namespace Plant

variable {ε ε' α β : Type}

/-- An action that leaves the queue alone, whatever it does otherwise. -/
def Quiet (x : Action (MemoryPlant V) ε α) : Prop := ∀ p, (x p).2.queue = p.queue

/-- An action that publishes records of a task, whatever it does otherwise. -/
def Publishes (topology : Topology V) (task : Task) (x : Action (MemoryPlant V) ε α) : Prop :=
  ∀ p, ∃ records, (x p).2.queue = publishing topology task records p.queue

variable {x : Action (MemoryPlant V) ε α} {f : α → Action (MemoryPlant V) ε β}
  {topology : Topology V} {task : Task}

/-- To leave the queue alone is to keep any queue that it may be. -/
theorem quiet_iff_keeps : Quiet x ↔ ∀ queue, x.Keeps fun p => p.queue = queue :=
  ⟨fun quiet _ p same => (quiet p).trans same, fun keeps p => keeps p.queue p rfl⟩

theorem Quiet.bind (hx : Quiet x) (hf : ∀ a, Quiet (f a)) : Quiet (x >>= f) :=
  quiet_iff_keeps.2 fun queue =>
    (quiet_iff_keeps.1 hx queue).bind fun a => quiet_iff_keeps.1 (hf a) queue

theorem Quiet.mapError (hx : Quiet x) (g : ε → ε') : Quiet (x.mapError g) :=
  quiet_iff_keeps.2 fun queue => (quiet_iff_keeps.1 hx queue).mapError g

theorem quiet_pure (a : α) : Quiet (pure a : Action (MemoryPlant V) ε α) := fun _ => rfl

theorem quiet_retrying [Clock V] (policy : RetryPolicy) (purpose : String)
    {call : Action (MemoryPlant V) StepError α} (h : Quiet call) :
    Quiet (retrying policy purpose call) :=
  -- a sleep between two tries passes in the services
  quiet_iff_keeps.2 fun queue =>
    (quiet_iff_keeps.1 h queue).retrying (fun _ _ same => same) policy purpose

theorem Quiet.bind_publishes (hx : Quiet x) (hf : ∀ a, Publishes topology task (f a)) :
    Publishes topology task (x >>= f) := by
  intro p
  have first := hx p
  cases run : x p with
  | mk r q =>
    rw [run] at first
    have first : q.queue = p.queue := first
    cases r with
    | ok a =>
      obtain ⟨records, published⟩ := hf a q
      exact ⟨records, by rw [Action.bind_of_ok run, published, first]⟩
    | error e => exact ⟨[], by rw [Action.bind_of_error run]; exact first⟩

theorem Publishes.bind (hx : Publishes topology task x) (hf : ∀ a, Quiet (f a)) :
    Publishes topology task (x >>= f) := by
  intro p
  obtain ⟨records, published⟩ := hx p
  refine ⟨records, ?_⟩
  cases run : x p with
  | mk r q =>
    rw [run] at published
    cases r with
    | ok a => rw [Action.bind_of_ok run, hf a q, published]
    | error e => rw [Action.bind_of_error run, published]

theorem Publishes.recover (hx : Publishes topology task x)
    {handler : ε → Action (MemoryPlant V) ε' α} (h : ∀ e, Quiet (handler e)) :
    Publishes topology task (x.recover handler) := by
  intro p
  obtain ⟨records, published⟩ := hx p
  refine ⟨records, ?_⟩
  cases run : x p with
  | mk r q =>
    rw [run] at published
    cases r with
    | ok a => rw [Action.recover_of_ok _ run, published]
    | error e => rw [Action.recover_of_error _ run, h e q, published]

end Plant

namespace Submitter

variable [Clock V]

open Plant

/-- **A submission** publishes records of its task on the first topic of its topology and does
nothing else to the queue, whether the topology is chained or not. -/
theorem publishes_submit (s : Submitter V) {task : Task} {topology : Topology V}
    (found : s.topologies.get? task.topology = some topology) :
    Publishes topology task (s.submit task : Action (MemoryPlant V) SubmitError Submission) := by
  have looks : Quiet (s.expectedFromPrevious task : Action (MemoryPlant V) SubmitError Int) := by
    rw [expectedFromPrevious]
    cases task.previous? with
    | none => exact quiet_pure _
    | some previous =>
      have asks : Quiet ((Plant.onTracker (Tracker.find previous)).mapError
          StoreError.toStepError : Action (MemoryPlant V) StepError (Option TaskInfo)) :=
        Quiet.mapError (fun _ => rfl) _
      exact Quiet.bind (Quiet.mapError (quiet_retrying _ _ asks) _) fun _ => quiet_pure _
  have publishes : Publishes topology task (s.publishOrFail topology task) := by
    refine Publishes.recover (fun p => ?_) fun err => ?_
    · exact ⟨_, congrArg (Plant.queue ∘ Prod.snd)
        (each_publishRecord (.source task.id) topology task (s.source task) p)⟩
    · exact Quiet.bind (fun _ => rfl) fun _ _ => rfl
  have accepts : ∀ known,
      Quiet (s.accept topology task known : Action (MemoryPlant V) SubmitError Unit) := by
    intro known
    exact Quiet.bind (fun _ => rfl) fun now => Quiet.bind (Quiet.mapError (fun _ => rfl) _)
      fun _ => Quiet.bind (Quiet.mapError (fun _ => rfl) _) fun _ => quiet_pure _
  have goes : ∀ known, Publishes topology task (s.proceed topology task known) := fun known =>
    Quiet.bind_publishes (accepts known) fun _ => Publishes.bind publishes fun published =>
      Quiet.bind (Quiet.mapError (fun _ => rfl) _) fun _ => quiet_pure _
  rw [submit_eq found, look]
  split
  · exact Quiet.bind_publishes looks goes
  · exact Quiet.bind_publishes (quiet_pure _) goes

end Submitter

end Conveyor
