import Conveyor.Proofs.Stages.Tally

/-!
# What a write stage does, and what it leaves alone

A record that is reported as deleted, or that lacks something, leaves the services as they were.
Any other record is stored as one version more, in an archive that keeps all it held before, and
counted as one row more of its dataset if there is an index and the record names a dataset.  It goes
on without content and without the parameters that say where it was read from, but with the
address of its file, and is the same in all else.

* `RehearsalServices.Unfailing` — services in memory, none of whose calls for storing and counting
  is planned to fail.
* `Countings` — one row more in the buckets of an object, or none anywhere.
* `Deposited` — one version more in the archive, and its row.
* `process_of_unstored`, **`process_of_version?`** — a record that is not stored, and one that is.
* `Storing`, **`stored_or_untouched`** — every record, in all services.
-/

namespace Conveyor

open Rehearsal

/-- The object under which a version is counted, if it belongs to a dataset. -/
def NewVersion.object? (v : NewVersion) : Option String := v.dataset.map (datasetObject v.provider)

namespace RehearsalServices

/-- Services in memory, none of whose calls for storing and counting is planned to fail, and whose
buckets bear names of their own that were drawn. -/
structure Unfailing (s : RehearsalServices MemoryBuckets) : Prop where
  create : s.inner.depot.plan .create = []
  buckets : ∀ op, s.bucketPlan op = []
  stocked : Stocked (fun object => s.buckets.store.bucketsOf object) s.names

/-- The rows of an object. -/
def rowsOf (object : String) (s : RehearsalServices MemoryBuckets) : Nat :=
  ((s.buckets.store.bucketsOf object).map Bucket.rows).sum

/-! ## Rows -/

/-- One row more in the youngest bucket of an object that has room for it, or none anywhere. -/
structure Countings (counter : BucketedCounter) (object? : Option String)
    (s s' : RehearsalServices MemoryBuckets) : Prop where
  unchanged : object? = none → s' = s
  row : ∀ object, object? = some object → ∃ full last,
    counter.opened ⟨object, s.names.next, 0⟩ (s.buckets.store.bucketsOf object) = full ++ [last] ∧
      s'.buckets.store.bucketsOf object = full ++ [{ last with rows := last.rows + 1 }]
  others : ∀ object, object? ≠ some object →
    s'.buckets.store.bucketsOf object = s.buckets.store.bucketsOf object
  /-- Nothing but the bucket store and the names that were drawn. -/
  elsewhere : s' = bucketsPart.set (s'.buckets, s'.names) s

section

variable {s s' : RehearsalServices MemoryBuckets} {counter : BucketedCounter}
  {object? : Option String}

/-- The rows of an object grow by the row that is counted for it. -/
theorem Countings.rowsOf_eq (h : Countings counter object? s s') (object : String) :
    s'.rowsOf object = s.rowsOf object + if object? = some object then 1 else 0 := by
  by_cases own : object? = some object
  · obtain ⟨full, last, opened, counted⟩ := h.row object own
    have room : ((counter.opened ⟨object, s.names.next, 0⟩
        (s.buckets.store.bucketsOf object)).map Bucket.rows).sum = s.rowsOf object :=
      BucketedCounter.sum_opened rfl
    rw [opened] at room
    rw [if_pos own, ← room, rowsOf, counted]
    simp [Nat.add_assoc]
  · rw [if_neg own, rowsOf, rowsOf, h.others object own, Nat.add_zero]

end

section

variable {s : RehearsalServices MemoryBuckets} {counter : BucketedCounter} {object : String}

/-- What was added to a bucket store in memory, object by object. -/
theorem Countings.of_added {bucket : Bucket}
    {x : Faulty BucketOp StoreError MemoryBuckets × IdSource}
    (h : BucketedCounter.Added MemoryBuckets.view.faulty counter object s.buckets s.names bucket x) :
    Countings counter (some object) s (bucketsPart.set x s) := by
  obtain ⟨full, last, opened, rfl, becomes⟩ := h.becomes
  have found : ∀ other, x.1.store.bucketsOf other
      = Function.update (MemoryBuckets.view.shelf s.buckets.store) object
          (full ++ [{ last with rows := last.rows + 1 }]) other := by
    intro other
    rw [← MemoryBuckets.view_shelf]
    exact congrFun becomes.shelf other
  refine ⟨nofun, ?_, ?_, rfl⟩
  · rintro own ⟨⟩
    refine ⟨full, last, ?_, (found object).trans (Function.update_self ..)⟩
    rw [← opened]
    exact congrArg _ (MemoryBuckets.view_shelf object s.buckets.store).symm
  · intro other apart
    refine (found other).trans ?_
    rw [Function.update_of_ne fun same => apart (congrArg some same.symm)]
    exact MemoryBuckets.view_shelf other s.buckets.store

/-- **To count an object** in services that do not fail adds its row. -/
theorem count_of_unfailing (buckets : ∀ op, s.bucketPlan op = [])
    (stocked : Stocked (fun object => s.buckets.store.bucketsOf object) s.names)
    (counter : BucketedCounter) (object : String) : ∃ s',
      (bucketIndex counter bucketsPart).count object s = (.ok (), s') ∧
      Countings counter (some object) s s' := by
  have unplanned : ∀ op fault, fault ∉ s.buckets.plan op := by
    intro op fault
    have unplanned : s.buckets.plan op = [] := buckets op
    simp [unplanned]
  have sane : MemoryBuckets.view.faulty.sane s.buckets :=
    ⟨trivial, fun op fault planned => absurd planned (unplanned op fault)⟩
  have sure : MemoryBuckets.view.faulty.sure s.buckets :=
    ⟨trivial, fun op fault planned => absurd planned (unplanned op fault)⟩
  have shelf : MemoryBuckets.view.shelf s.buckets.store
      = fun object => s.buckets.store.bucketsOf object :=
    funext fun object => MemoryBuckets.view_shelf object _
  rcases (count_ends lawful_memory counter object sane (shelf ▸ stocked)).cases with
    ⟨_, _, run, _, _, added, rfl⟩ | ⟨_, _, _, _, uncounted, rfl⟩
  · exact ⟨_, run, .of_added added⟩
  · exact absurd sure uncounted.unsure

/-- **To count a version** adds the row of its dataset, if there is an index and it belongs to
one. -/
theorem countVersion_of_unfailing (buckets : ∀ op, s.bucketPlan op = [])
    (stocked : Stocked (fun object => s.buckets.store.bucketsOf object) s.names)
    (policy : RetryPolicy) (counter : BucketedCounter) (counted : Bool) (v : NewVersion) :
    ∃ s', countVersion (if counted then some (bucketIndex counter bucketsPart) else none) policy v s
        = (.ok (), s') ∧
      Countings counter (if counted then v.object? else none) s s' := by
  have untouched : Countings counter none s s :=
    ⟨fun _ => rfl, by simp, fun _ _ => rfl, rfl⟩
  cases counted with
  | false => exact ⟨s, rfl, untouched⟩
  | true =>
    cases dataset : v.dataset with
    | none =>
      refine ⟨s, ?_, ?_⟩
      · simp [countVersion, dataset]
      · simpa [NewVersion.object?, dataset] using untouched
    | some d =>
      obtain ⟨s', run, counts⟩ :=
        count_of_unfailing buckets stocked counter (datasetObject v.provider d)
      refine ⟨s', ?_, ?_⟩
      · simp only [countVersion, dataset]
        exact retryingStep_of_ok policy _ run
      · simpa [NewVersion.object?, dataset] using counts

end

/-! ## One record -/

/-- A version was stored under the next name, at an address, and counted if it is to be. -/
structure Deposited (f : Fittings) (counted : Bool) (v : NewVersion) (url : String)
    (s s' : RehearsalServices MemoryBuckets) : Prop where
  address : url
    = (Locator.mk s.archive.base v.cloudId v.representation s.names.next v.fileName).render
  /-- One version more, and its content where it is said to be. -/
  versions : s'.archive.versions = s.archive.versions ++
    [⟨⟨v.cloudId, v.representation, s.names.next, v.provider, [v.fileName], true⟩, url⟩]
  content : s'.archive.read url = .ok v.content
  contents : ∀ other, other ≠ url → s'.archive.read other = s.archive.read other
  listed : ∀ query, s'.archive.entriesOf query = s.archive.entriesOf query ++
    if v.GoesUnder query then [⟨v.cloudId, v.representation, s.names.next, url, false⟩] else []
  settings : s'.archive.base = s.archive.base ∧ s'.archive.pageSize = s.archive.pageSize
  /-- One row more of its dataset, if there is an index and it belongs to one. -/
  rows : ∀ object, s'.rowsOf object
    = s.rowsOf object + if counted = true ∧ v.object? = some object then 1 else 0
  row : ∀ object, counted = true → v.object? = some object → ∃ full last,
    f.counter.opened ⟨object, s.names.draw.next, 0⟩ (s.buckets.store.bucketsOf object)
        = full ++ [last] ∧
      s'.buckets.store.bucketsOf object = full ++ [{ last with rows := last.rows + 1 }]
  others : ∀ object, ¬ (counted = true ∧ v.object? = some object) →
    s'.buckets.store.bucketsOf object = s.buckets.store.bucketsOf object
  uncounted : counted = false ∨ v.dataset = none → s'.buckets = s.buckets
  /-- Nothing else of what the services keep. -/
  elsewhere : s'.inner.depot.store = { s.inner.depot.store with
    archive := s'.archive, buckets := s'.buckets, ids := s'.names }

section

variable {s : RehearsalServices MemoryBuckets} {f : Fittings} {counted : Bool} {e : Envelope}

/-- A row that is counted once a version was stored. -/
theorem Countings.deposited {v : NewVersion} {s' : RehearsalServices MemoryBuckets}
    (h : Countings f.counter (if counted then v.object? else none) (s.created v) s') :
    Deposited f counted v (s.archive.addressOf v s.names.next) s s' := by
  have archive : s'.archive = (Archive.create v (s.archive, s.names)).2.1 := by
    rw [h.elsewhere]
    rfl
  have files : s'.archive.files
      = s.archive.files.insert (s.archive.addressOf v s.names.next) v.content := by
    rw [archive]
    rfl
  have object? : ∀ object, (if counted then v.object? else none) = some object ↔
      counted = true ∧ v.object? = some object := by
    intro object
    cases counted <;> simp
  constructor
  case address => rfl
  case versions =>
    rw [archive]
    rfl
  case content =>
    rw [Archive.read, files, Dict.get?_insert, if_pos rfl]
  case contents =>
    intro other apart
    rw [Archive.read, Archive.read, files, Dict.get?_insert, if_neg (Ne.symm apart)]
  case listed =>
    intro query
    rw [archive]
    exact Archive.entriesOf_create s.archive s.names v query
  case settings =>
    rw [archive]
    exact ⟨rfl, rfl⟩
  case rows =>
    intro object
    rw [h.rowsOf_eq]
    simp only [object?]
    rfl
  case row => exact fun object counts own => h.row object ((object? object).2 ⟨counts, own⟩)
  case others => exact fun object other => h.others object (mt (object? object).1 other)
  case uncounted =>
    intro none
    have same : s' = s.created v := by
      refine h.unchanged ?_
      rcases none with rfl | none
      · rfl
      · simp [NewVersion.object?, none]
    rw [same]
    rfl
  case elsewhere =>
    rw [h.elsewhere]
    rfl

/-- **A record that is stored** goes on with the address of its file. -/
theorem process_of_version? (h : s.Unfailing) (f : Fittings) (counted : Bool) {v : NewVersion}
    (some : e.version? = some v) : ∃ s',
    (f.stage (.write counted)).process e s
        = (.ok (.forward (e.written (s.archive.addressOf v s.names.next))), s') ∧
      Deposited f counted v (s.archive.addressOf v s.names.next) s s' := by
  obtain ⟨marked, asked⟩ := Envelope.version?_eq_some_iff.1 some
  have stocked : Stocked (fun object => (s.created v).buckets.store.bucketsOf object)
      (s.created v).names := h.stocked.later s.names.draw rfl (Nat.le_succ _)
  obtain ⟨s', count, counts⟩ := countVersion_of_unfailing (s := s.created v) h.buckets stocked
    f.policy f.counter counted v
  refine ⟨s', ?_, counts.deposited⟩
  simp only [Fittings.stage, writeStage, marked, asked, Bool.false_eq_true, if_false]
  rw [Action.bind_of_ok (retryingStep_of_ok f.policy _ (create_of_unplanned h.create v)),
    Action.bind_of_ok count]
  rfl

end

/-- **A record that is not stored**, in whatever services: it leaves if it is reported as deleted,
else it fails for what it lacks first, and nothing is called. -/
theorem process_of_unstored {σ : Type} [Clock σ] (metadata : MetadataService σ)
    (index : Option (RevisionIndex σ)) (policy : RetryPolicy) (e : Envelope) (s : σ) :
    (e.isMarkedDeleted = true →
      (writeStage metadata index policy).process e s = (.ok (.dropped e), s)) ∧
    ∀ lack, e.isMarkedDeleted = false → e.lack? = some lack →
      (writeStage metadata index policy).process e s = (.ok (.failed e lack ""), s) := by
  refine ⟨fun marked => ?_, fun lack unmarked lacks => ?_⟩
  · simp [writeStage, marked]
  · simp [writeStage, unmarked, versionOf_of_lack? lacks]

/-! ## Every record -/

/-- What a write stage answers for a record, and what it leaves of the services. -/
structure Storing (f : Fittings) (counted : Bool) (e : Envelope)
    (s : RehearsalServices MemoryBuckets) (answer : Except StepError Outcome)
    (s' : RehearsalServices MemoryBuckets) : Prop where
  answers : ∃ outcome, answer = .ok outcome
  dropped : ∀ id resource, answer = .ok (.drop id resource) ↔
    e.isMarkedDeleted = true ∧ id = e.taskId ∧ resource = e.resource
  failed : ∀ err, answer = .ok (.error err) ↔ e.isMarkedDeleted = false ∧
    ∃ lack, e.lack? = some lack ∧ err = ⟨e.taskId, e.resource, lack, ""⟩
  untouched : (∀ e', answer ≠ .ok (.forward e')) → s' = s
  /-- A record that goes on was stored as the version that it asks for. -/
  stored : ∀ e', answer = .ok (.forward e') → ∃ v, e.Asks v ∧
    ∃ url, Deposited f counted v url s s' ∧
      e' = { e with payload := none, parameters := e'.parameters } ∧
      ∀ key, e'.parameter? key
        = if key = Parameter.outputUrl then some url
          else if key ∈ Parameter.transient then none else e.parameter? key

section

variable {f : Fittings} {counted : Bool} {e : Envelope} {s s' : RehearsalServices MemoryBuckets}

theorem Storing.of_marked (marked : e.isMarkedDeleted = true) :
    Storing f counted e s (.ok (.dropped e)) s := by
  refine ⟨⟨_, rfl⟩, fun id resource => ⟨?_, ?_⟩, fun err => ?_, fun _ => rfl,
    by simp [Outcome.dropped]⟩
  · rintro ⟨⟩
    exact ⟨marked, rfl, rfl⟩
  · rintro ⟨-, rfl, rfl⟩
    rfl
  · simp [Outcome.dropped, marked]

theorem Storing.of_lack {lack : String} (unmarked : e.isMarkedDeleted = false)
    (lacks : e.lack? = some lack) : Storing f counted e s (.ok (.failed e lack "")) s := by
  refine ⟨⟨_, rfl⟩, fun id resource => ?_, fun err => ⟨?_, ?_⟩, fun _ => rfl,
    by simp [Outcome.failed]⟩
  · simp [Outcome.failed, unmarked]
  · rintro ⟨⟩
    exact ⟨unmarked, lack, lacks, rfl⟩
  · rintro ⟨-, _, lacked, rfl⟩
    obtain rfl := Option.some.inj (lacks.symm.trans lacked)
    rfl

theorem Storing.of_deposited {v : NewVersion} {url : String} (unmarked : e.isMarkedDeleted = false)
    (complete : e.lack? = none) (asks : e.Asks v) (deposited : Deposited f counted v url s s') :
    Storing f counted e s (.ok (.forward (e.written url))) s' := by
  refine ⟨⟨_, rfl⟩, fun id resource => ?_, fun err => ?_, fun halts => absurd rfl (halts _), ?_⟩
  · simp [unmarked]
  · simp [complete]
  · rintro e' forwarded
    obtain rfl := Outcome.forward.inj (Except.ok.inj forwarded)
    exact ⟨v, asks, url, deposited, e.written_eq url, e.parameters_written url⟩

end

/-- **Every record is stored or leaves the services untouched.** -/
theorem stored_or_untouched (f : Fittings) (counted : Bool) (e : Envelope)
    {s : RehearsalServices MemoryBuckets} (h : s.Unfailing) :
    Storing f counted e s ((f.stage (.write counted)).process e s).1
      ((f.stage (.write counted)).process e s).2 := by
  obtain ⟨dropping, failing⟩ := process_of_unstored (Exchange.metadata exchangePart)
    (if counted then some (bucketIndex f.counter bucketsPart) else none) f.policy e s
  cases marked : e.isMarkedDeleted with
  | true =>
    have run : (f.stage (.write counted)).process e s = (.ok (.dropped e), s) := dropping marked
    rw [run]
    exact .of_marked marked
  | false =>
    cases lacks : e.lack? with
    | some lack =>
      have run : (f.stage (.write counted)).process e s = (.ok (.failed e lack ""), s) :=
        failing lack marked lacks
      rw [run]
      exact .of_lack marked lacks
    | none =>
      obtain ⟨v, asked, asks⟩ := versionOf_of_complete lacks
      obtain ⟨s', run, deposited⟩ := process_of_version? h f counted
        (Envelope.version?_eq_some_iff.2 ⟨marked, asked⟩)
      rw [run]
      exact .of_deposited marked lacks asks deposited

/-- A record that says where it was read from, of a dataset that is counted. -/
def readRecord : Envelope :=
  (shelfRecord.withParameter Parameter.cloudId "atlas").withParameter Parameter.fileName "map"

/-- The record goes on, and its row is counted. -/
theorem stored_or_untouched_shelf :
    (shelfServices []).Unfailing ∧
    Storing shelfFittings true readRecord (shelfServices [])
      ((shelfFittings.stage (.write true)).process readRecord (shelfServices [])).1
      ((shelfFittings.stage (.write true)).process readRecord (shelfServices [])).2 ∧
    ((shelfFittings.stage (.write true)).process readRecord (shelfServices [])).1
      = .ok (.forward (readRecord.written
          "http://store/records/atlas/representations/edm/versions/#/files/map")) ∧
    ((shelfFittings.stage (.write true)).process readRecord (shelfServices [])).2.rowsOf
      "libraryshelf" = 1 := by
  have ready : (shelfServices []).Unfailing :=
    ⟨rfl, fun op => by cases op <;> rfl, .of_nil injective_hashes fun _ => rfl⟩
  exact ⟨ready, stored_or_untouched shelfFittings true readRecord ready, by decide +kernel,
    by decide +kernel⟩

end RehearsalServices

end Conveyor
