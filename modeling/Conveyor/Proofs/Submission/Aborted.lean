import Conveyor.Proofs.Faults
import Conveyor.Proofs.Submission.Exact

/-!
# Submissions that fail

A submission that is refused, or whose task cannot be registered, leaves nothing behind.  One that
breaks off on a record has published the records before it, and its task has failed.  So as long as
the state of the task itself can be changed, no task stays in progress whose submission failed.

* `FragilePlant` — a plant whose queue and tasks fail as planned.
* `Plant.Unchanged`, `Plant.Looked` — that nothing was entered, and that it was only looked.
* `Submitter.look_ends`, `accept_ends`, `publishFeed_ends`, `publishOrFail_ends` — how the parts of
  a submission end.
* `Submitter.Aborted` — what is left of a submission that broke off.
* `Submitter.Failing`, **`Submitter.failing_submit`** — the ways in which a submission fails.
* **`Submitter.failed_submission`** — what a failed submission leaves behind.
-/

namespace Conveyor

/-- A plant with a queue and tasks in memory, whose calls fail as planned. -/
abbrev FragilePlant (N V : Type) : Type :=
  Plant (Faulty QueueOp StoreError MemoryQueue) (Faulty TaskOp StoreError MemoryTasks) N V

variable {N V : Type}

namespace Plant

/-- The progress record of a task. -/
def record? (p : FragilePlant N V) (id : TaskId) : Option TaskInfo :=
  p.tracker.tasks.store.find? id

def withTasks (tasks : Faulty TaskOp StoreError MemoryTasks) (p : FragilePlant N V) :
    FragilePlant N V :=
  { p with tracker := { p.tracker with tasks := tasks } }

/-- The queue, the tasks and the announcements are as they were. -/
structure Unchanged (p q : FragilePlant N V) : Prop where
  queue : q.queue = p.queue
  tasks : q.tracker.tasks.store = p.tracker.tasks.store
  notices : q.tracker.notices = p.tracker.notices

/-- At most, time has passed and calls of the tasks were made that change nothing. -/
structure Looked [Clock V] (p q : FragilePlant N V) : Prop where
  same : p.Unchanged q
  within : p.tracker.tasks.Within q.tracker.tasks
  slept : ∃ delays : List Millis,
    q.services = delays.foldl (fun v delay => Clock.sleep delay v) p.services

theorem Unchanged.trans {p q r : FragilePlant N V} (h : p.Unchanged q) (h' : q.Unchanged r) :
    p.Unchanged r :=
  ⟨h'.queue.trans h.queue, h'.tasks.trans h.tasks, h'.notices.trans h.notices⟩

theorem Looked.refl [Clock V] (p : FragilePlant N V) : p.Looked p :=
  ⟨⟨rfl, rfl, rfl⟩, fun _ _ => id, [], rfl⟩

theorem Looked.sleep [Clock V] {p q : FragilePlant N V} (h : p.Looked q) (delay : Millis) :
    p.Looked (Clock.sleep delay q) := by
  obtain ⟨⟨queue, tasks, notices⟩, within, delays, slept⟩ := h
  refine ⟨⟨queue, tasks, notices⟩, within, delays ++ [delay], ?_⟩
  rw [List.foldl_append, ← slept]
  rfl

/-! ## Calls of the tasks -/

theorem find_ends [Clock V] (id : TaskId) {p q : FragilePlant N V} (h : p.Looked q) :
    (onTracker (Tracker.find id)).Ends (fun found q' => found = p.record? id ∧ p.Looked q')
      (fun _ => p.Looked) q := by
  obtain ⟨⟨queue, tasks, notices⟩, within, slept⟩ := h
  have alone : (TaskStore.find id : Action MemoryTasks StoreError _).Ends
      (fun found store => found = q.record? id ∧ store = q.tracker.tasks.store)
      (fun _ _ => False) q.tracker.tasks.store := Action.ends_of_ok rfl ⟨rfl, rfl⟩
  have found : q.record? id = p.record? id := by rw [record?, tasks, record?]
  refine Action.Ends.on (Action.Ends.on ((Faulty.ends_call alone).mono ?_ ?_))
  · rintro _ f ⟨⟨rfl, same⟩, plan, -⟩
    exact ⟨found, ⟨queue, same.trans tasks, notices⟩, within.trans (Faulty.within_of_spent plan),
      slept⟩
  · rintro err f ⟨plan, failed | ⟨afterwards, -, left⟩⟩
    · exact failed.elim
    · have same : f.store = q.tracker.tasks.store := by
        cases afterwards with
        | false => exact left
        | true =>
          obtain ⟨_, _, same⟩ := left
          exact same
      exact ⟨⟨queue, same.trans tasks, notices⟩, within.trans (Faulty.within_of_spent plan), slept⟩

/-- To register a task enters its record, or leaves all as it was. -/
theorem register_ends (info : TaskInfo) (replace : Bool) {q : FragilePlant N V}
    (insert : q.tracker.tasks.Harmless .insert) (upsert : q.tracker.tasks.Harmless .upsert) :
    (onTracker (Tracker.register info replace)).Ends
      (fun _ q' => ∃ tasks, q' = q.withTasks tasks ∧
        tasks.store = q.tracker.tasks.store.put info ∧ q.tracker.tasks.Within tasks)
      (fun _ q' => ∃ tasks, q' = q.withTasks tasks ∧ tasks.store = q.tracker.tasks.store) q := by
  have entered {op : TaskOp} {action : Action MemoryTasks StoreError Unit}
      (harmless : q.tracker.tasks.Harmless op)
      (alone : action.Ends (fun _ store => store = q.tracker.tasks.store.put info)
        (fun _ store => store = q.tracker.tasks.store) q.tracker.tasks.store) :
      (onTracker (Tracker.onTasks (Faulty.call op action))).Ends
        (fun _ q' => ∃ tasks, q' = q.withTasks tasks ∧
          tasks.store = q.tracker.tasks.store.put info ∧ q.tracker.tasks.Within tasks)
        (fun _ q' => ∃ tasks, q' = q.withTasks tasks ∧ tasks.store = q.tracker.tasks.store) q := by
    have called := Faulty.ends_call_of_harmless harmless alone
    refine Action.Ends.on (Action.Ends.on (called.mono ?_ ?_))
    · rintro _ tasks ⟨store, plan, -⟩
      exact ⟨tasks, rfl, store, Faulty.within_of_spent plan⟩
    · rintro _ tasks ⟨-, store | ⟨store, -⟩⟩
      · exact ⟨tasks, rfl, store⟩
      · exact ⟨tasks, rfl, store⟩
  cases replace with
  | true => exact entered upsert (Action.ends_of_ok rfl rfl)
  | false =>
    refine entered insert ?_
    show (MemoryTasks.insert info).Ends _ _ _
    rw [Action.Ends, MemoryTasks.insert]
    cases q.tracker.tasks.store.find? info.id <;> rfl

/-- A change of a task's state. -/
theorem transition_ends (now : Timestamp) (id : TaskId) (sources : List TaskState)
    (target : TaskState) (description : String) (q : FragilePlant N V) :
    (onTracker (Tracker.onTasks
      (TaskStore.transition now id sources target description))).Ends
      (fun _ q' => ∃ tasks, q' = q.withTasks tasks ∧
        tasks.store = q.tracker.tasks.store.amend id
          ((Amendment.move now target description).when (·.state ∈ sources)) ∧
        q.tracker.tasks.Within tasks)
      (fun _ q' => (∃ tasks, q' = q.withTasks tasks) ∧ ¬ q.tracker.tasks.Smooth .transition) q := by
  have alone : (TaskStore.transition now id sources target description :
      Action MemoryTasks StoreError Bool).Ends
        (fun _ store => store = q.tracker.tasks.store.amend id
          ((Amendment.move now target description).when (·.state ∈ sources)))
        (fun _ _ => False) q.tracker.tasks.store := Action.ends_of_ok rfl rfl
  refine Action.Ends.on (Action.Ends.on ((Faulty.ends_call_of_answers alone).mono ?_ ?_))
  · rintro _ tasks ⟨store, within⟩
    exact ⟨tasks, rfl, store, within⟩
  · exact fun _ tasks rough => ⟨⟨tasks, rfl⟩, rough⟩

/-- What a task can expect is noted, unless that or its completion is planned to fail. -/
theorem setExpected_ends (now : Timestamp) (id : TaskId) (n : Int) (q : FragilePlant N V) :
    (onTracker (Tracker.setExpected now id n)).Ends (fun _ _ => True)
      (fun _ _ => q.tracker.tasks.Smooth .setExpected → ¬ q.tracker.tasks.Smooth .complete) q := by
  have answers : (TaskStore.setExpected id n : Action MemoryTasks StoreError Unit).Ends
      (fun _ _ => True) (fun _ _ => False) q.tracker.tasks.store := Action.ends_of_ok rfl trivial
  have noted : (Tracker.onTasks (TaskStore.setExpected id n) :
      Action (Tracker _ N) StoreError Unit).Ends
      (fun _ t => q.tracker.tasks.Within t.tasks)
      (fun _ _ => q.tracker.tasks.Smooth .setExpected → ¬ q.tracker.tasks.Smooth .complete)
      q.tracker :=
    .on ((Faulty.ends_call_of_answers answers).mono (fun _ _ h => h.2)
      fun _ _ rough smooth => absurd smooth rough)
  refine Action.Ends.on (noted.bind fun _ t within => ?_)
  have completed : (TaskStore.complete now id : Action MemoryTasks StoreError _).Ends
      (fun _ _ => True) (fun _ _ => False) t.tasks.store := Action.ends_of_ok rfl trivial
  exact Action.Ends.forget (.on ((Faulty.ends_call_of_answers completed).mono
    (fun _ _ _ => trivial) fun _ _ rough _ smooth => rough (smooth.within within)))

end Plant

/-- Whether a submission is refused before anything is entered. -/
def SubmitError.isRefusal : SubmitError → Bool
  | .unknownTopology _ | .alreadyExists _ | .previousTaskLookup .. => true
  | .tracker _ | .source .. | .publish .. => false

/-- Why the records of a feed were not all published: it broke off behind some records, or the
record behind them was not published. -/
inductive BrokeOff (task : Task) (feed : Feed V) (v : V) (plan : List (Option (Fault StoreError)))
    (earlier : List SourceRecord) : SubmitError → V → Prop where
  | source {err : StepError} {v' : V} (told : feed.tell v = ⟨earlier, v', some err⟩) :
      BrokeOff task feed v plan earlier (.source task.id err) v'
  | publish {fault : Fault StoreError} {r : SourceRecord} {later : List SourceRecord} {v' : V}
      (told : (feed.tell v).records = earlier ++ r :: later)
      (planned : plan[earlier.length]? = some (some fault)) :
      BrokeOff task feed v plan earlier (.publish task.id fault.error) v'

namespace Submitter

open Plant

variable [Clock V]

/-! ## What is looked up -/

omit [Clock V] in
/-- How many records a task can expect that is not submitted yet. -/
def known (topology : Topology V) (task : Task) (p : FragilePlant N V) : Int :=
  if topology.chained then
    ((task.previous?.bind p.record?).map TaskInfo.forwarded).getD unknownCount
  else unknownCount

theorem look_ends (s : Submitter V) (topology : Topology V) (task : Task) (p : FragilePlant N V) :
    (s.look topology task).Ends (fun n q => n = known topology task p ∧ p.Looked q)
      (fun err q => err.isRefusal = true ∧ p.Looked q) p := by
  rw [look]
  by_cases chained : topology.chained = true
  · rw [if_pos chained, expectedFromPrevious]
    cases names : task.previous? with
    | none =>
      refine Action.ends_of_ok rfl ⟨?_, .refl p⟩
      rw [known, if_pos chained, names]
      rfl
    | some previous =>
      have tries (q : FragilePlant N V) (h : p.Looked q) :
          ((Plant.onTracker (Tracker.find previous)).mapError StoreError.toStepError).Ends
            (fun found q' => found = p.record? previous ∧ p.Looked q') (fun _ => p.Looked) q :=
        .mapError (find_ends previous h)
      have looked := Action.Ends.retrying tries (fun _ delay h => h.sleep delay) s.policy
        ("Error while reading task " ++ previous.text) (.refl p)
      have reworded : ((retrying s.policy ("Error while reading task " ++ previous.text)
          ((Plant.onTracker (Tracker.find previous)).mapError StoreError.toStepError)).mapError
            (SubmitError.previousTaskLookup previous)).Ends
          (fun found q => found = p.record? previous ∧ p.Looked q)
          (fun err q => err.isRefusal = true ∧ p.Looked q) p :=
        .mapError (looked.mono (fun _ _ => id) fun _ _ h => ⟨rfl, h⟩)
      refine reworded.bind ?_
      rintro found q ⟨rfl, h⟩
      refine Action.ends_of_ok rfl ⟨?_, h⟩
      rw [known, if_pos chained, names]
      rfl
  · rw [if_neg chained]
    exact Action.ends_of_ok rfl ⟨(if_neg chained).symm, .refl p⟩

/-! ## The task is entered -/

/-- The tasks with one that was registered and is in progress. -/
def entering (s : Submitter V) (topology : Topology V) (task : Task) (expected : Int)
    (now : Timestamp) (tasks : MemoryTasks) : MemoryTasks :=
  (tasks.put (.new now task.id topology.name expected s.owner)).amend task.id
    ((Amendment.move now .processing "The task is in progress").when (·.state ∈ [.pending]))

/-- A task is entered and in progress, or it cannot be registered and all is as it was, or it
cannot be put in progress. -/
theorem accept_ends (s : Submitter V) (topology : Topology V) (task : Task) (expected : Int)
    {q : FragilePlant N V} (insert : q.tracker.tasks.Harmless .insert)
    (upsert : q.tracker.tasks.Harmless .upsert) :
    (s.accept topology task expected).Ends
      (fun _ q' => ∃ tasks, q' = q.withTasks tasks ∧
        tasks.store = s.entering topology task expected (Clock.now q) q.tracker.tasks.store ∧
        q.tracker.tasks.Within tasks)
      (fun err q' => ((err.isRefusal = true ∨ ∃ e, err = .tracker e) ∧ q.Unchanged q') ∨
        (∃ e, err = .tracker e) ∧ ¬ q.tracker.tasks.Smooth .transition) q := by
  rw [accept]
  refine Action.Ends.after (Action.gets_apply ..) ?_
  refine Action.Ends.bind (.mapError ((register_ends (.new (Clock.now q) task.id topology.name
    expected s.owner) task.restart insert upsert).mono (fun _ _ => id) ?_)) ?_
  · rintro err _ ⟨tasks, rfl, store⟩
    refine .inl ⟨?_, rfl, store, rfl⟩
    cases err with
    | alreadyExists _ => exact .inl rfl
    | _ => exact .inr ⟨_, rfl⟩
  rintro _ _ ⟨tasks, rfl, store, within⟩
  have moved := transition_ends (Clock.now q) task.id [.pending] .processing
    "The task is in progress" (q.withTasks tasks)
  refine Action.Ends.bind (.mapError (moved.mono (fun _ _ => id) ?_)) ?_
  · rintro err _ ⟨-, rough⟩
    exact .inr ⟨⟨err, rfl⟩, fun smooth => rough (smooth.within within)⟩
  · rintro _ _ ⟨tasks', rfl, store', within'⟩
    refine Action.ends_of_ok rfl ⟨tasks', rfl, ?_, within.trans within'⟩
    rw [store', entering]
    exact congrArg (MemoryTasks.amend task.id _) store

/-! ## The records are published -/

omit [Clock V] in
/-- A record is published, unless its publication is planned to fail. -/
theorem publishRecord_ends (topology : Topology V) (task : Task) (r : SourceRecord)
    (q : FragilePlant N V) :
    (publishRecord topology task r).Ends
      (fun _ q' => ∃ queue, q' = { q with queue := queue } ∧
        queue.store = publishing topology task [r] q.queue.store ∧
        queue.plan = q.queue.spent .publish)
      (fun err q' => ∃ queue fault, q' = { q with queue := queue } ∧
        err = .publish task.id fault.error ∧
        (q.queue.plan .publish).head? = some (some fault) ∧
        (q.queue.Harmless .publish → queue.store = q.queue.store)) q := by
  have alone : (MessageQueue.publish topology.entryTopic (topology.partitionFor (r.envelope task))
      (r.envelope task) : Action MemoryQueue StoreError MessageId).Ends
        (fun _ store => store = publishing topology task [r] q.queue.store) (fun _ _ => False)
        q.queue.store := Action.ends_of_ok rfl rfl
  refine Action.Ends.forget (.mapError (.on ((Faulty.ends_call alone).mono ?_ ?_)))
  · rintro _ queue ⟨store, plan, -⟩
    exact ⟨queue, rfl, store, plan⟩
  · rintro err queue ⟨-, failed | ⟨afterwards, planned, left⟩⟩
    · exact failed.elim
    · refine ⟨queue, _, rfl, rfl, planned, fun harmless => ?_⟩
      obtain rfl : afterwards = false := harmless _ (List.mem_of_head? planned)
      exact left

omit [Clock V] in
/-- **The records of a feed are published**, or those before the one on which it broke off. -/
theorem publishFeed_ends (topology : Topology V) (task : Task) (feed : Feed V)
    (q : FragilePlant N V) :
    (feed.each Plant.servicesPart (.source task.id) (publishRecord topology task)).Ends
      (fun _ q' => q'.tracker = q.tracker)
      (fun err q' => q'.tracker = q.tracker ∧ ∃ earlier,
        BrokeOff task feed q.services (q.queue.plan .publish) earlier err q'.services ∧
        (q.queue.Harmless .publish →
          q'.queue.store = publishing topology task earlier q.queue.store)) q := by
  induction feed generalizing q with
  | done => exact Action.ends_of_ok rfl rfl
  | broken err => exact Action.ends_of_error rfl ⟨rfl, [], .source rfl, fun _ => rfl⟩
  | record r rest ih =>
    refine ((publishRecord_ends topology task r q).mono (fun _ _ => id) ?_).bind ?_
    · rintro _ _ ⟨queue, fault, rfl, rfl, planned, store⟩
      refine ⟨rfl, [], .publish rfl ?_, store⟩
      rwa [List.length_nil, ← List.head?_eq_getElem?]
    rintro _ _ ⟨queue, rfl, store, plan⟩
    refine Action.Ends.forget ((ih { q with queue := queue }).mono (fun _ _ => id) ?_)
    rintro err q' ⟨tracker, earlier, broke, published⟩
    refine ⟨tracker, r :: earlier, ?_, fun harmless => ?_⟩
    · rw [plan, Faulty.spent, if_pos rfl] at broke
      cases broke with
      | source told => exact .source (by rw [Feed.tell, told])
      | publish told planned =>
        rw [List.getElem?_tail] at planned
        exact .publish (by rw [Feed.tell, told]; rfl) planned
    · rw [published (harmless.within (Faulty.within_of_spent plan)), store]
      rfl
  | ask call rest ih =>
    cases run : call q.services with
    | mk answer services =>
      have asked : (call.on Plant.servicesPart) q = (answer, { q with services := services }) := by
        rw [Action.on_apply]
        exact congrArg (fun r => (r.1, { q with services := r.2 })) run
      cases answer with
      | ok a =>
        refine Action.Ends.after (Action.mapError_of_ok _ asked) ?_
        refine (ih a { q with services := services }).mono (fun _ _ => id) ?_
        rintro err q' ⟨tracker, earlier, broke, published⟩
        refine ⟨tracker, earlier, ?_, published⟩
        have told : (Feed.ask call rest).tell q.services = (rest a).tell services := by
          rw [Feed.tell, run]
        cases broke with
        | source told' => exact .source (told.trans told')
        | publish told' planned => exact .publish (told ▸ told') planned
      | error err =>
        refine Action.ends_of_error (Action.bind_of_error (Action.mapError_of_error _ asked)) ?_
        exact ⟨rfl, [], .source (by rw [Feed.tell, run]), fun _ => rfl⟩

/-- What has become of a task that is in progress when its submission breaks off behind some
records. -/
structure Stopped (s : Submitter V) (topology : Topology V) (task : Task) (q : FragilePlant N V)
    (earlier : List SourceRecord) (err : SubmitError) (q' : FragilePlant N V) : Prop where
  brokeOff : BrokeOff task (s.source task) q.services (q.queue.plan .publish) earlier err
    q'.services
  queue : q.queue.Harmless .publish →
    q'.queue.store = publishing topology task earlier q.queue.store
  notices : q'.tracker.notices = q.tracker.notices
  tasks : q.tracker.tasks.Smooth .transition →
    q'.tracker.tasks.store = q.tracker.tasks.store.amend task.id
      ((Amendment.move (Clock.now q'.services) .failed err.message).when
        (·.state ∈ TaskState.active))

theorem publishOrFail_ends (s : Submitter V) (topology : Topology V) (task : Task)
    (q : FragilePlant N V) :
    (s.publishOrFail topology task).Ends (fun _ q' => q'.tracker = q.tracker)
      (fun err q' => ∃ earlier, s.Stopped topology task q earlier err q') q := by
  rw [publishOrFail]
  refine (publishFeed_ends topology task (s.source task) q).recover ?_
  rintro err q₁ ⟨tracker, earlier, broke, published⟩
  have same : q₁.tracker.tasks = q.tracker.tasks := congrArg Tracker.tasks tracker
  have notices : q₁.tracker.notices = q.tracker.notices := congrArg Tracker.notices tracker
  have fails := transition_ends (Clock.now q₁) task.id TaskState.active .failed err.message q₁
  rw [same] at fails
  -- whether the state of the task can be changed or not, the submission fails as it did
  have noted : (Plant.report fun now => Tracker.failTask now task.id err.message).Ends
      (fun _ => s.Stopped topology task q earlier err)
      (fun _ => s.Stopped topology task q earlier err) q₁ := by
    refine fails.mono ?_ ?_
    · rintro _ _ ⟨tasks, rfl, moved, -⟩
      exact ⟨broke, published, notices, fun _ => moved⟩
    · rintro e _ ⟨⟨tasks, rfl⟩, rough⟩
      exact ⟨broke, published, notices, fun smooth => absurd smooth rough⟩
  exact Action.Ends.bind noted.attempt fun _ _ stopped =>
    Action.ends_of_error rfl ⟨earlier, stopped⟩

/-! ## The submission breaks off -/

/-- The progress record of a task whose submission broke off. -/
def abandonedRecord (s : Submitter V) (topology : Topology V) (task : Task) (expected : Int)
    (began ended : Timestamp) (reason : String) : TaskInfo :=
  { TaskInfo.new began task.id topology.name expected s.owner with
    state := .failed
    description := reason
    startedAt := some began
    finishedAt := some ended }

omit [Clock V] in
theorem find?_amend_entering (s : Submitter V) (topology : Topology V) (task : Task)
    (expected : Int) (began ended : Timestamp) (reason : String) (tasks : MemoryTasks)
    (id : TaskId) :
    ((s.entering topology task expected began tasks).amend task.id
      ((Amendment.move ended .failed reason).when (·.state ∈ TaskState.active))).find? id
      = if task.id = id then some (s.abandonedRecord topology task expected began ended reason)
        else tasks.find? id := by
  rw [entering]
  by_cases same : task.id = id
  · subst same
    simp only [MemoryTasks.find?_amend, MemoryTasks.find?_put, if_pos, TaskInfo.new]
    rfl
  · simp only [MemoryTasks.find?_amend, MemoryTasks.find?_put, if_neg same, TaskInfo.new]

/-- What a submission leaves behind that broke off behind some records. -/
structure Aborted (s : Submitter V) (topology : Topology V) (task : Task) (p : FragilePlant N V)
    (v : V) (earlier : List SourceRecord) (err : SubmitError) (q : FragilePlant N V) : Prop where
  /-- The feed broke off behind these records, or the next one was not published. -/
  brokeOff : BrokeOff task (s.source task) v (p.queue.plan .publish) earlier err q.services
  /-- The queue gains a message for every record before, in order, and no other. -/
  messages : p.queue.Harmless .publish →
    ∃ new, q.queue.store.messages = p.queue.store.messages ++ new ∧
      List.Forall₂ (Posted topology task) earlier new
  /-- The task has failed for the reason that is given; none of its records is counted, and it
  expects no more and no less than before it was known which were published. -/
  progress : q.record? task.id = some (s.abandonedRecord topology task (known topology task p)
    (Clock.now v) (Clock.now q.services) err.message)
  others : ∀ id, id ≠ task.id → q.record? id = p.record? id
  notices : q.tracker.notices = p.tracker.notices

/-- A submission that breaks off on a task which was looked up and entered. -/
theorem Stopped.aborted {s : Submitter V} {topology : Topology V} {task : Task}
    {p q q' : FragilePlant N V} {tasks : Faulty TaskOp StoreError MemoryTasks}
    {earlier : List SourceRecord} {err : SubmitError} (looked : p.Looked q)
    (entered : tasks.store = s.entering topology task (known topology task p) (Clock.now q)
      q.tracker.tasks.store) (within : q.tracker.tasks.Within tasks)
    (h : s.Stopped topology task (q.withTasks tasks) earlier err q')
    (smooth : p.tracker.tasks.Smooth .transition) :
    s.Aborted topology task p q.services earlier err q' := by
  have failed := h.tasks (smooth.within (looked.within.trans within))
  have record (id : TaskId) : q'.record? id = if task.id = id then
      some (s.abandonedRecord topology task (known topology task p) (Clock.now q)
        (Clock.now q'.services) err.message) else p.record? id := by
    rw [record?, failed]
    show ((tasks.store.amend task.id _).find? id) = _
    rw [entered, looked.same.tasks]
    exact s.find?_amend_entering ..
  constructor
  case brokeOff => rw [← looked.same.queue]; exact h.brokeOff
  case messages =>
    intro harmless
    have same : (q.withTasks tasks).queue = p.queue := looked.same.queue
    rw [h.queue (same ▸ harmless), same]
    exact posted_publishing topology task earlier p.queue.store
  case progress => exact (record task.id).trans (if_pos rfl)
  case others => exact fun id apart => (record id).trans (if_neg (Ne.symm apart))
  case notices => exact h.notices.trans looked.same.notices

/-! ## The whole of it -/

/-- The ways in which a submission fails. -/
inductive Failing (s : Submitter V) (task : Task) (p : FragilePlant N V) :
    SubmitError → FragilePlant N V → Prop where
  /-- Nothing was entered. -/
  | refused {err : SubmitError} {q : FragilePlant N V}
      (cause : err.isRefusal = true ∨ ∃ e, err = .tracker e) (same : p.Unchanged q) :
      Failing s task p err q
  /-- The task was not put in progress, or it was not noted what it can expect. -/
  | interrupted {e : StoreError} {q : FragilePlant N V}
      (rough : p.tracker.tasks.Smooth .transition → p.tracker.tasks.Smooth .setExpected →
        ¬ p.tracker.tasks.Smooth .complete) : Failing s task p (.tracker e) q
  /-- The records of the task were not all published. -/
  | aborted {topology : Topology V} {delays : List Millis} {earlier : List SourceRecord}
      {err : SubmitError} {q : FragilePlant N V}
      (found : s.topologies.get? task.topology = some topology)
      (cause : err.isRefusal = false ∧ ∀ e, err ≠ .tracker e)
      (left : p.tracker.tasks.Smooth .transition → s.Aborted topology task p
        (delays.foldl (fun v delay => Clock.sleep delay v) p.services) earlier err q) :
      Failing s task p err q

/-- **The ways in which a submission fails**, and what each of them leaves. -/
theorem failing_submit (s : Submitter V) (task : Task) {p : FragilePlant N V}
    (insert : p.tracker.tasks.Harmless .insert) (upsert : p.tracker.tasks.Harmless .upsert) :
    (s.submit task).Ends (fun _ _ => True) (s.Failing task p) p := by
  cases found : s.topologies.get? task.topology with
  | none =>
    rw [submit, found]
    exact Action.ends_of_error rfl (.refused (.inl rfl) ⟨rfl, rfl, rfl⟩)
  | some topology =>
    rw [submit_eq found]
    refine ((s.look_ends topology task p).mono (fun _ _ => id) ?_).bind ?_
    · exact fun err q h => .refused (.inl h.1) h.2.same
    rintro _ q ⟨rfl, looked⟩
    have accepts := s.accept_ends topology task (known topology task p)
      (insert.within looked.within) (upsert.within looked.within)
    refine (accepts.mono (fun _ _ => id) ?_).bind ?_
    · rintro err q' (⟨cause, same⟩ | ⟨⟨e, rfl⟩, rough⟩)
      · exact .refused cause (looked.same.trans same)
      · exact .interrupted fun smooth => absurd (smooth.within looked.within) rough
    rintro _ _ ⟨tasks, rfl, entered, within⟩
    have publishes := s.publishOrFail_ends topology task (q.withTasks tasks)
    refine (publishes.mono (fun _ _ => id) ?_).bind ?_
    · rintro err q' ⟨earlier, stopped⟩
      obtain ⟨delays, slept⟩ := looked.slept
      refine .aborted found ?_ fun smooth => slept ▸ stopped.aborted looked entered within smooth
      cases stopped.brokeOff with
      | source _ => exact ⟨rfl, fun _ same => by cases same⟩
      | publish _ _ => exact ⟨rfl, fun _ same => by cases same⟩
    · intro published q' tracker
      have within : p.tracker.tasks.Within q'.tracker.tasks := by
        rw [tracker]
        exact looked.within.trans within
      refine Action.Ends.bind (.mapError ((setExpected_ends (Clock.now q') task.id _ q').mono
        (fun _ _ => id) ?_)) fun _ _ _ => Action.ends_of_ok rfl trivial
      exact fun e _ rough => .interrupted fun _ noted completed =>
        rough (noted.within within) (completed.within within)

/-- The task of a submission cannot be registered with what it can expect. -/
def RegistrationFails (s : Submitter V) (task : Task) (p : FragilePlant N V) : Prop :=
  ∃ topology known p₁ e p₂, s.topologies.get? task.topology = some topology ∧
    s.look topology task p = (.ok known, p₁) ∧
    Plant.onTracker (Tracker.register
      (.new (Clock.now p₁) task.id topology.name known s.owner) task.restart) p₁ = (.error e, p₂)

/-- A task that cannot be registered is not submitted, and leaves nothing behind. -/
theorem unchanged_of_registrationFails {s : Submitter V} {task : Task} {p : FragilePlant N V}
    (insert : p.tracker.tasks.Harmless .insert) (upsert : p.tracker.tasks.Harmless .upsert)
    (h : s.RegistrationFails task p) :
    ∃ err q, s.submit task p = (.error err, q) ∧ p.Unchanged q := by
  obtain ⟨topology, expected, p₁, e, p₂, found, look, fails⟩ := h
  obtain ⟨-, looked⟩ := (s.look_ends topology task p).of_ok look
  obtain ⟨tasks, rfl, store⟩ := (register_ends _ task.restart (insert.within looked.within)
    (upsert.within looked.within)).of_error fails
  obtain ⟨err, refused⟩ : ∃ err,
      s.accept topology task expected p₁ = (.error err, p₁.withTasks tasks) := by
    rw [accept, Action.bind_of_ok (Action.gets_apply ..)]
    exact ⟨_, Action.bind_of_error (Action.mapError_of_error _ fails)⟩
  have same : p₁.Unchanged (p₁.withTasks tasks) := ⟨rfl, store, rfl⟩
  refine ⟨err, _, ?_, looked.same.trans same⟩
  rw [submit_eq found, Action.bind_of_ok look, proceed]
  exact Action.bind_of_error refused

/-- What a failed submission leaves behind. -/
structure LeavesNoOrphan (s : Submitter V) (task : Task) (p : FragilePlant N V)
    (err : SubmitError) (q : FragilePlant N V) : Prop where
  /-- A submission that is refused, or whose task cannot be registered, changes nothing. -/
  unchanged : err.isRefusal = true ∨ s.RegistrationFails task p → p.Unchanged q
  /-- One that breaks off on a record has published the records before it, and its task has
  failed. -/
  aborted : (∃ e, err = .source task.id e) ∨ (∃ e, err = .publish task.id e) →
    p.tracker.tasks.Smooth .transition → ∃ topology, ∃ delays : List Millis, ∃ earlier,
      s.topologies.get? task.topology = some topology ∧ s.Aborted topology task p
        (delays.foldl (fun v delay => Clock.sleep delay v) p.services) earlier err q
  /-- No task is in progress that was not so before. -/
  settled : p.tracker.tasks.Smooth .transition → p.tracker.tasks.Smooth .setExpected →
    p.tracker.tasks.Smooth .complete → ∀ id t, q.record? id = some t →
    t.state ∈ TaskState.active → p.record? id = some t

/-- **A failed submission leaves no orphan**, whatever the calls of the queue and of the tasks do,
as long as a task whose registration fails is not entered. -/
theorem failed_submission {s : Submitter V} {task : Task} {p q : FragilePlant N V}
    {err : SubmitError} (insert : p.tracker.tasks.Harmless .insert)
    (upsert : p.tracker.tasks.Harmless .upsert) (run : s.submit task p = (.error err, q)) :
    s.LeavesNoOrphan task p err q := by
  have failing := (s.failing_submit task insert upsert).of_error run
  constructor
  case unchanged =>
    rintro (refusal | registration)
    · cases failing with
      | refused _ same => exact same
      | interrupted _ => cases refusal
      | aborted _ cause _ => cases cause.1.symm.trans refusal
    · obtain ⟨err', q', run', same⟩ := unchanged_of_registrationFails insert upsert registration
      rw [run, Prod.mk.injEq] at run'
      exact run'.2 ▸ same
  case aborted =>
    intro cause smooth
    cases failing with
    | refused other _ =>
      rcases cause with ⟨e, rfl⟩ | ⟨e, rfl⟩ <;> rcases other with refusal | ⟨_, same⟩
      · cases refusal
      · cases same
      · cases refusal
      · cases same
    | interrupted _ => rcases cause with ⟨_, same⟩ | ⟨_, same⟩ <;> cases same
    | aborted found _ left => exact ⟨_, _, _, found, left smooth⟩
  case settled =>
    intro smooth noted completed id t known active
    cases failing with
    | refused _ same => rwa [record?, same.tasks] at known
    | interrupted rough => exact absurd completed (rough smooth noted)
    | aborted _ _ left =>
      by_cases same : id = task.id
      · subst same
        rw [(left smooth).progress] at known
        obtain rfl := Option.some.inj known
        cases TaskState.mem_active_iff.1 active
      · rwa [(left smooth).others id same] at known

end Submitter

/-! ## A publication that fails -/

/-- The task is in progress already, and it is submitted once more. -/
def brittleTask : Task := { followTask with restart := true }

/-- The second record is not published. -/
def brittlePlant : FragilePlant MemoryNotifications (Timed Unit) :=
  ⟨⟨.empty, fun op => if op = .publish then [none, some ⟨.storage "disk full", false⟩] else []⟩,
    ⟨.ofStore (Tracker.afterAll (.start .epoch ⟨8⟩ ::
      .register .epoch ⟨8⟩ "follow" 5 none false :: followHistory)).tasks, .empty⟩,
    Timed.start .epoch ()⟩

theorem failed_submission_brittle :
    brittlePlant.tracker.tasks.Harmless .insert ∧ brittlePlant.tracker.tasks.Harmless .upsert ∧
      ∃ q, followSubmitter.submit brittleTask brittlePlant
          = (.error (.publish ⟨8⟩ (.storage "disk full")), q) ∧
        q.queue.store.messages.length = 1 ∧
        (q.record? ⟨8⟩).map (fun t => (t.state, t.expected)) = some (.failed, 3) ∧
        followSubmitter.LeavesNoOrphan brittleTask brittlePlant
          (.publish ⟨8⟩ (.storage "disk full")) q := by
  have harmless (op : TaskOp) : brittlePlant.tracker.tasks.Harmless op := nofun
  have fails : (followSubmitter.submit brittleTask brittlePlant).1
      = .error (.publish ⟨8⟩ (.storage "disk full")) := by decide +kernel
  have run : followSubmitter.submit brittleTask brittlePlant
      = (.error (.publish ⟨8⟩ (.storage "disk full")),
        (followSubmitter.submit brittleTask brittlePlant).2) := Prod.ext fails rfl
  exact ⟨harmless .insert, harmless .upsert, _, run, by decide +kernel, by decide +kernel,
    Submitter.failed_submission (harmless .insert) (harmless .upsert) run⟩

end Conveyor
