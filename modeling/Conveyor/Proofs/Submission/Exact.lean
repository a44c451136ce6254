import Conveyor.Proofs.Submission.Chained
import Conveyor.Proofs.Tracker.Lifecycle

/-!
# What a submission leaves behind

A submission whose feed ends publishes a message for every record, in order and on the partition of
the record's key, and leaves a fresh progress record of its task.  It expects as many records as it
has published, unless the task builds on another one that is known: then as many as that forwarded.

* `Posted` — the message of a record: where it waits, and what its envelope says.
* `Submitter.recordOf` — the progress record of a task that was just submitted.
* `Submitter.Submitted` and **`Submitter.submitted_of_told`** — all that a submission does.
* `Tracker.count_nonneg` — no count of a tracker is negative, so that what was forwarded is known.
-/

namespace Conveyor

variable {V : Type}

/-! ## Messages -/

/-- The key of a record: its own, else that of its task. -/
def SourceRecord.key? (task : Task) (r : SourceRecord) : Option String :=
  r.routingKey.or (task.parameter? Parameter.routingKey)

/-- The message of a record of a task. -/
structure Posted (topology : Topology V) (task : Task) (r : SourceRecord) (m : StoredMessage) :
    Prop where
  topic : m.topic = topology.entryTopic
  partition : m.partition
    = Hash.bucketNumber ((r.key? task).getD r.resource) topology.partitions
  waits : m.inFlight = false
  untried : m.attempts = 0
  /-- But for its parameters, the envelope is that of the resource. -/
  envelope : m.envelope = { Envelope.ofTask task r.resource with
    parameters := m.envelope.parameters }
  /-- The parameters are those of the task, but for the key and the mark. -/
  parameters : ∀ key, m.envelope.parameter? key
    = if key = Parameter.routingKey then r.key? task
      else if key = Parameter.markedDeleted ∧ r.deleted = true then some "true"
      else task.parameter? key

namespace SourceRecord

variable (task : Task) (r : SourceRecord)

theorem parameter?_envelope (key : String) :
    (r.envelope task).parameter? key
      = if key = Parameter.routingKey then r.key? task
        else if key = Parameter.markedDeleted ∧ r.deleted = true then some "true"
        else task.parameter? key := by
  have apart : Parameter.markedDeleted ≠ Parameter.routingKey := by decide
  obtain ⟨resource, own, deleted⟩ := r
  cases own with
  | none =>
    cases deleted with
    | false =>
      show task.parameters.get? key = _
      by_cases route : key = Parameter.routingKey <;> simp [route, key?, Task.parameter?]
    | true =>
      show (task.parameters.insert Parameter.markedDeleted "true").get? key = _
      rw [Dict.get?_insert]
      by_cases route : key = Parameter.routingKey
      · simp [route, apart, key?, Task.parameter?]
      · simp [route, Task.parameter?, eq_comm (a := key)]
  | some own =>
    cases deleted with
    | false =>
      show (task.parameters.insert Parameter.routingKey own).get? key = _
      rw [Dict.get?_insert]
      by_cases route : key = Parameter.routingKey
      · simp [route, key?]
      · simp [route, Ne.symm route, Task.parameter?]
    | true =>
      show ((task.parameters.insert Parameter.routingKey own).insert
        Parameter.markedDeleted "true").get? key = _
      rw [Dict.get?_insert, Dict.get?_insert]
      by_cases route : key = Parameter.routingKey
      · simp [route, apart, key?]
      · simp [route, Ne.symm route, Task.parameter?, eq_comm (a := key)]

theorem envelope_eq : r.envelope task = { Envelope.ofTask task r.resource with
    parameters := (r.envelope task).parameters } := by
  rw [envelope]
  cases r.routingKey <;> cases r.deleted <;> rfl

theorem routingKey_envelope :
    (r.envelope task).routingKey = (r.key? task).getD r.resource := by
  rw [Envelope.routingKey, parameter?_envelope, if_pos rfl, envelope_eq]
  rfl

end SourceRecord

theorem posted (topology : Topology V) (task : Task) (r : SourceRecord) (id : MessageId) :
    Posted topology task r ⟨id, topology.entryTopic, topology.partitionFor (r.envelope task),
      r.envelope task, false, 0⟩ where
  topic := rfl
  partition := by
    simp only [Topology.partitionFor, Envelope.bucketNumber, r.routingKey_envelope]
  waits := rfl
  untried := rfl
  envelope := r.envelope_eq task
  parameters := r.parameter?_envelope task

/-- **The messages of a submission** wait behind all others, one for every record, in order. -/
theorem posted_publishing (topology : Topology V) (task : Task) (records : List SourceRecord)
    (q : MemoryQueue) :
    ∃ new, (publishing topology task records q).messages = q.messages ++ new ∧
      List.Forall₂ (Posted topology task) records new := by
  induction records generalizing q with
  | nil => exact ⟨[], by simp [publishing], .nil⟩
  | cons r rest ih =>
    obtain ⟨new, messages, all⟩ := ih
      (q.publish topology.entryTopic (topology.partitionFor (r.envelope task))
        (r.envelope task)).2
    rw [MemoryQueue.messages_publish, List.append_assoc] at messages
    exact ⟨_, messages, .cons (posted topology task r _) all⟩

/-! ## Counts -/

namespace Tracker

/-- **No count of a tracker is negative**, whatever calls have been made. -/
theorem count_nonneg {history : List Call} {id : TaskId} {t : TaskInfo}
    (known : recordAfter history id = some t) (counter : Counter) : 0 ≤ t.count counter := by
  induction history generalizing t with
  | nil => cases known
  | cons c earlier ih =>
    rcases recordAfter_cons_cases known with before | ⟨-, fresh, -⟩ | ⟨change, u, -, -, before, rfl⟩
    · exact ih before
    · cases c with
      | register now task topology expected owner replace =>
        obtain rfl := Option.some.inj fresh
        cases counter <;> exact Int.le_refl 0
      | _ => cases fresh
    · have less : u.count counter ≤ (change.own c.now u).count counter := by
        rcases change.count_own c.now u with same | ⟨raised, more⟩
        · exact Int.le_of_eq (same counter).symm
        · rw [more]
          split <;> omega
      rw [Change.revise]
      split
      · rw [TaskInfo.count_settled]
        exact Int.le_trans (ih before) less
      · exact Int.le_trans (ih before) less

/-- What a task has forwarded is never taken for an unknown number. -/
theorem forwarded_ne_unknown {history : List Call} {id : TaskId} {t : TaskInfo}
    (known : recordAfter history id = some t) : t.forwarded ≠ unknownCount := by
  have processed : 0 ≤ t.processed := count_nonneg known .processed
  have deleted : 0 ≤ t.deleted := count_nonneg known .deleted
  have postProcessed : 0 ≤ t.postProcessed := count_nonneg known .postProcessed
  rw [TaskInfo.forwarded, unknownCount]
  omega

end Tracker

/-! ## The whole of it -/

namespace Submitter

/-- The progress record of a task that was just submitted; it is done at once if nothing is
expected. -/
def recordOf (s : Submitter V) (topology : Topology V) (task : Task) (expected : Int)
    (began ended : Timestamp) : TaskInfo :=
  { TaskInfo.new began task.id topology.name expected s.owner with
    state := if expected = 0 then .processed else .processing
    description := if expected = 0 then processedDescription else "The task is in progress"
    startedAt := some began
    finishedAt := if expected = 0 then some ended else none }

variable [Clock V] {s : Submitter V} {task : Task} {topology : Topology V} {p : MemoryPlant V}

theorem progress_admitted (s : Submitter V) (topology : Topology V)
    (free : task.restart = true ∨ p.progress task.id = none) (known expected : Int)
    (records : List SourceRecord) (services : V) (id : TaskId) :
    ((s.admitted topology task known records services p).told
        (.setExpected (Clock.now services) task.id expected)).progress id
      = if task.id = id then
          some (s.recordOf topology task expected (Clock.now p) (Clock.now services))
        else p.progress id := by
  show Plant.progress (((p.told _).told _).told _) id = _
  rw [Plant.progress_told, Plant.progress_told, Plant.progress_told]
  by_cases same : task.id = id
  · subst same
    simp only [Tracker.Call.task, if_true, after_register free]
    show some (TaskInfo.settled (Clock.now services)
      { (TaskInfo.new (Clock.now p) task.id topology.name known s.owner).moved (Clock.now p)
          .processing "The task is in progress" with expected := expected }) = _
    rw [TaskInfo.settled]
    by_cases none : expected = 0
    · subst none
      rfl
    · rw [if_neg fun due => none ?_, recordOf, if_neg none, if_neg none, if_neg none]
      · rfl
      · obtain ⟨-, lower, upper⟩ := TaskInfo.isDue_iff.1 due
        exact Int.le_antisymm upper lower
  · simp [Tracker.Call.task, same]

/-- All that a submission of records does to a plant. -/
structure Submitted (s : Submitter V) (topology : Topology V) (task : Task)
    (records : List SourceRecord) (services : V) (p : MemoryPlant V) (expected : Int)
    (q : MemoryPlant V) : Prop where
  /-- The queue gains a message for every record, in order, and no other. -/
  messages : ∃ new, q.queue.messages = p.queue.messages ++ new ∧
    List.Forall₂ (Posted topology task) records new
  /-- As many records are expected as were published, if nothing is known of another task. -/
  alone : (topology.chained = false ∨
      ∀ previous, task.previous? = some previous → p.progress previous = none) →
    expected = records.length
  /-- Else as many as the other task forwarded. -/
  following : topology.chained = true → ∀ previous t, task.previous? = some previous →
    p.progress previous = some t →
    expected = if t.forwarded = unknownCount then (records.length : Int)
      else t.processed + t.deleted + t.postProcessed
  /-- What it forwarded is known if the tracker has come to its state by calls. -/
  followed : topology.chained = true → ∀ previous t, task.previous? = some previous →
    p.progress previous = some t → (∃ history, p.tracker = Tracker.afterAll history) →
    expected = t.processed + t.deleted + t.postProcessed
  /-- The record of the task is fresh. -/
  progress : q.progress task.id
    = some (s.recordOf topology task expected (Clock.now p) (Clock.now services))
  /-- Other tasks are as they were, and nothing is announced. -/
  others : ∀ id, id ≠ task.id → q.progress id = p.progress id
  entries : q.entries = p.entries
  services : q.services = services

/-- What a task can expect is looked up without changing anything. -/
theorem exists_look (s : Submitter V) (topology : Topology V) (task : Task) (p : MemoryPlant V) :
    ∃ known, s.look topology task p = (.ok known, p) ∧
      ((topology.chained = false ∨
        ∀ previous, task.previous? = some previous → p.progress previous = none) →
          known = unknownCount) ∧
      (topology.chained = true → ∀ previous t, task.previous? = some previous →
        p.progress previous = some t → known = t.forwarded) := by
  rw [look]
  cases chained : topology.chained with
  | false => exact ⟨unknownCount, rfl, fun _ => rfl, fun h => absurd h Bool.false_ne_true⟩
  | true =>
    by_cases unknown : ∀ previous, task.previous? = some previous → p.progress previous = none
    · refine ⟨unknownCount, expectedFromPrevious_of_unknown unknown, fun _ => rfl, ?_⟩
      intro _ previous t names known
      rw [unknown previous names] at known
      cases known
    · push Not at unknown
      obtain ⟨previous, names, known⟩ := unknown
      obtain ⟨t, known⟩ := Option.ne_none_iff_exists'.1 known
      refine ⟨t.forwarded, expectedFromPrevious_of_known names known, ?_, ?_⟩
      · rintro (unchained | unknown)
        · cases unchained
        · rw [unknown previous names] at known
          cases known
      · intro _ previous' t' names' known'
        obtain rfl := Option.some.inj (names.symm.trans names')
        exact congrArg TaskInfo.forwarded (Option.some.inj (known.symm.trans known'))

/-- **A submission publishes exactly the records that its feed tells**: it succeeds, and all that it
does is to post them, to enter the task, and to say what is expected of it. -/
theorem submitted_of_told (found : s.topologies.get? task.topology = some topology)
    (free : task.restart = true ∨ p.progress task.id = none) {records : List SourceRecord}
    {services : V} (told : (s.source task).tell p.services = ⟨records, services, none⟩) :
    ∃ expected q,
      s.submit task p = (.ok ⟨task.id, topology.entryTopic, records.length, expected⟩, q) ∧
        s.Submitted topology task records services p expected q := by
  obtain ⟨known, look, alone, following⟩ := s.exists_look topology task p
  obtain ⟨expected, expects⟩ : ∃ expected : Int,
      expected = if known = unknownCount then (records.length : Int) else known := ⟨_, rfl⟩
  have progress := s.progress_admitted topology free known expected records services
  refine ⟨expected, _, submit_of_expecting found look free told expects, ?_⟩
  constructor
  case messages => exact posted_publishing topology task records p.queue
  case alone => exact fun unknown => expects.trans (if_pos (alone unknown))
  case following =>
    intro chained previous t names forwarded
    rw [expects, following chained previous t names forwarded]
    rfl
  case followed =>
    rintro chained previous t names forwarded ⟨history, calls⟩
    have recorded : Tracker.recordAfter history previous = some t := by
      rw [Tracker.recordAfter, ← calls]
      exact forwarded
    rw [expects, following chained previous t names forwarded,
      if_neg (Tracker.forwarded_ne_unknown recorded)]
    rfl
  case progress => exact (progress task.id).trans (if_pos rfl)
  case others => exact fun id apart => (progress id).trans (if_neg (Ne.symm apart))
  case entries =>
    show Plant.entries (((p.told _).told _).told _) = _
    rw [Plant.entries_told, Plant.entries_told, Plant.entries_told]
    simp only [Tracker.Call.announced, List.append_nil]
  case services => rfl

end Submitter

/-! ## A task that follows another -/

/-- A topology whose tasks build on the records of an earlier one. -/
def followTopology : Topology (Timed Unit) where
  name := "follow"
  partitions := 2
  chained := true
  entries := [⟨⟨"relay", fun e => pure (.forward e)⟩, ⟨none, Dict.empty⟩⟩]
  entries_ne_nil := List.cons_ne_nil _ _
  partitions_pos := Nat.two_pos
  names_nodup := List.nodup_singleton _

def followTask : Task :=
  (Task.new ⟨8⟩ "two records" "follow").withParameter Parameter.previousTaskId " 7 "

def followRecords : List SourceRecord := [⟨"a", some "key", true⟩, ⟨"b", none, false⟩]

def followSubmitter : Submitter (Timed Unit) where
  topologies := Dict.empty.insert "follow" followTopology
  source _ := Feed.ofRecords followRecords .done
  policy := .none
  owner := some "run"

/-- Two records of the earlier task are processed and one is deleted. -/
def followHistory : List Tracker.Call :=
  [.deleted .epoch ⟨7⟩ "c", .processed .epoch ⟨7⟩, .processed .epoch ⟨7⟩, .start .epoch ⟨7⟩,
    .register .epoch ⟨7⟩ "copy" unknownCount none false]

def followPlant : MemoryPlant (Timed Unit) :=
  ⟨.empty, Tracker.afterAll followHistory, Timed.start .epoch ()⟩

theorem submitted_following :
    followSubmitter.topologies.get? followTask.topology = some followTopology ∧
      followPlant.progress followTask.id = none ∧
      (followSubmitter.source followTask).tell followPlant.services
        = ⟨followRecords, followPlant.services, none⟩ ∧
      ∃ q, followSubmitter.submit followTask followPlant
          = (.ok ⟨⟨8⟩, "follow.relay", 2, 3⟩, q) ∧
        followSubmitter.Submitted followTopology followTask followRecords followPlant.services
          followPlant 3 q := by
  have free : followPlant.progress followTask.id = none := by decide +kernel
  have names : followTask.previous? = some ⟨7⟩ := by decide +kernel
  obtain ⟨t, known, forwarded⟩ : ∃ t, followPlant.progress ⟨7⟩ = some t ∧
      t.processed + t.deleted + t.postProcessed = 3 :=
    Option.map_eq_some_iff.1 (by decide +kernel)
  have found : followSubmitter.topologies.get? followTask.topology = some followTopology := rfl
  have told : (followSubmitter.source followTask).tell followPlant.services
      = ⟨followRecords, followPlant.services, none⟩ := rfl
  obtain ⟨expected, q, run, submitted⟩ := Submitter.submitted_of_told found (.inr free) told
  obtain rfl : expected = 3 :=
    (submitted.followed rfl ⟨7⟩ t names known ⟨followHistory, rfl⟩).trans forwarded
  have topic : followTopology.entryTopic = "follow.relay" := by decide
  rw [topic] at run
  exact ⟨found, free, told, q, run, submitted⟩

end Conveyor
