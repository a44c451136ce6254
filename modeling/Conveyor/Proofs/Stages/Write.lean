import Conveyor.Proofs.Services.Counting
import Conveyor.Proofs.Services.Ledger
import Conveyor.Proofs.Services.Listing
import Conveyor.Proofs.Stages.Requirements

/-!
# What is written is found again

Whatever records a write stage stores, their versions are listed in the order they were written,
their contents are read back under the addresses that the forwarded records carry, and the archive
tells these addresses.  A record whose counting fails has been stored before, so it is listed like
the others, although it is not forwarded.

* `Passage` — a record on its way through a stage; `Stage.passages`, `Stage.after` for many.
* `Envelope.version?` — the version that is stored of a record, if there is one.
* `run_writeStage_of_none`, **`run_writeStage_of_some`** — one record in the write stage.
* `ledger_passages` — the ledger of all.
* `FoundAgain`, **`found_again`** — listing, reading and addresses once all records are through.
* `listed_though_uncounted` — a record that is listed and was not forwarded.
-/

namespace Conveyor

open Rehearsal

/-! ## Records on their way -/

/-- A record that goes through a stage, with the services it meets. -/
structure Passage (σ : Type) where
  envelope : Envelope
  services : σ
  outcome : Outcome

namespace Stage

variable {σ : Type} (stage : Stage σ)

def passages : List Envelope → σ → List (Passage σ)
  | [], _ => []
  | e :: rest, s => ⟨e, s, (stage.run e s).1⟩ :: passages rest (stage.run e s).2

/-- The services once all records are through. -/
def after : List Envelope → σ → σ
  | [], s => s
  | e :: rest, s => after rest (stage.run e s).2

end Stage

/-! ## What is asked for -/

namespace Envelope

/-- The version that is stored of a record: of one that is neither reported as deleted nor lacks
anything. -/
def version? (e : Envelope) : Option NewVersion :=
  if e.isMarkedDeleted then none else (versionOf e).toOption

/-- Whether a record belongs to the provider, dataset, representation and revision of a query. -/
def GoesTo (query : DatasetInput) (e : Envelope) : Prop :=
  e.parameter? Parameter.providerId = some query.provider ∧
    e.parameter? Parameter.outputDataset = some query.dataset ∧
    e.parameter? Parameter.newRepresentationName = some query.representation ∧
    e.revision.map Revision.name = some query.revision.name

instance (query : DatasetInput) (e : Envelope) : Decidable (e.GoesTo query) := by
  unfold GoesTo
  infer_instance

theorem version?_eq_some_iff {e : Envelope} {v : NewVersion} :
    e.version? = some v ↔ e.isMarkedDeleted = false ∧ versionOf e = .ok v := by
  rw [version?]
  cases e.isMarkedDeleted with
  | true => simp
  | false =>
    cases versionOf e with
    | error err => simp [Except.toOption]
    | ok v' => simp [Except.toOption]

/-- A record that is stored says where it belongs, and has content. -/
theorem of_version? {e : Envelope} {v : NewVersion} (h : e.version? = some v) :
    e.parameter? Parameter.providerId = some v.provider ∧
      e.parameter? Parameter.outputDataset = v.dataset ∧
      e.parameter? Parameter.newRepresentationName = some v.representation ∧
      e.revision = v.revision ∧ e.payload = some v.content := by
  obtain ⟨-, asks⟩ := asks_of_versionOf (version?_eq_some_iff.1 h).2
  exact ⟨asks.provider, asks.dataset.symm, asks.representation, asks.revision.symm, asks.content⟩

/-- Where a record goes to, its version goes under. -/
theorem goesUnder_iff {e : Envelope} {v : NewVersion} (h : e.version? = some v)
    (query : DatasetInput) : v.GoesUnder query ↔ e.GoesTo query := by
  obtain ⟨provider, dataset, representation, revision, -⟩ := of_version? h
  rw [NewVersion.GoesUnder, GoesTo, provider, dataset, representation, revision,
    Option.some.injEq, Option.some.injEq]

/-- A forwarded record carries the address of its file. -/
theorem parameter?_written (e : Envelope) (url : String) :
    (e.written url).parameter? Parameter.outputUrl = some url := by
  rw [parameters_written, if_pos rfl]

end Envelope

namespace Passage

variable {B : Type}

/-- What a write stage stores of a record: its version under the next name. -/
def stored? (p : Passage (RehearsalServices B)) : Option Stored :=
  p.envelope.version?.map fun v =>
    ⟨v, p.services.names.next, p.services.archive.addressOf v p.services.names.next⟩

/-- How a stored record is told again for a query to which it goes. -/
def record? (query : DatasetInput) (p : Passage (RehearsalServices B)) : Option SourceRecord :=
  if p.envelope.GoesTo query then
    p.stored?.map fun w => ⟨w.url, some w.version.cloudId, false⟩
  else none

theorem record?_eq (query : DatasetInput) (p : Passage (RehearsalServices B)) :
    p.record? query = (p.stored?.bind (Stored.entry? query)).map SourceRecord.ofEntry := by
  rw [record?, stored?]
  cases version : p.envelope.version? with
  | none => simp
  | some v =>
    by_cases goes : p.envelope.GoesTo query
    · have under := (Envelope.goesUnder_iff version query).2 goes
      simp [goes, Stored.entry?, under, SourceRecord.ofEntry]
    · have under := mt (Envelope.goesUnder_iff version query).1 goes
      simp [goes, Stored.entry?, under]

end Passage

namespace RehearsalServices

variable {B : Type} {s : RehearsalServices B} {index : Option (RevisionIndex (RehearsalServices B))}
  {policy : RetryPolicy} {e : Envelope}

/-! ## One record -/

/-- A record that is not stored changes nothing and is not forwarded. -/
theorem run_writeStage_of_none (index : Option (RevisionIndex (RehearsalServices B)))
    (policy : RetryPolicy) (none : e.version? = none) (s : RehearsalServices B) :
    ∃ outcome, (writeStage (Exchange.metadata exchangePart) index policy).run e s = (outcome, s) ∧
      ∀ e', outcome ≠ .forward e' := by
  rw [Stage.run]
  simp only [writeStage]
  cases marked : e.isMarkedDeleted with
  | true => exact ⟨.dropped e, by simp, by simp [Outcome.dropped]⟩
  | false =>
    cases asked : versionOf e with
    | error message => exact ⟨.failed e message "", by simp, by simp [Outcome.failed]⟩
    | ok v => simp [Envelope.version?_eq_some_iff.2 ⟨marked, asked⟩] at none

theorem leavesArchive_countVersion
    (counts : ∀ i ∈ index, ∀ object, LeavesArchive (i.count object)) (v : NewVersion) :
    LeavesArchive (countVersion index policy v) := by
  cases index with
  | none => exact fun _ => Action.keeps_pure _
  | some i =>
    cases dataset : v.dataset with
    | none =>
      simp only [countVersion, dataset]
      exact fun _ => Action.keeps_pure _
    | some d =>
      simp only [countVersion, dataset]
      exact leavesArchive_retrying (counts i rfl _) policy _

/-- Whether a record came to an error because it could not be counted, once its version was
created. -/
def Uncounted (index : Option (RevisionIndex (RehearsalServices B))) (policy : RetryPolicy)
    (e : Envelope) (v : NewVersion) (outcome : Outcome) (created : RehearsalServices B) : Prop :=
  ∃ err, (countVersion index policy v created).1 = .error err ∧ outcome = .ofStepError e err

/-- **A record that is stored** is forwarded with the address of its file, unless it cannot be
counted. -/
theorem run_writeStage_of_some (policy : RetryPolicy)
    (counts : ∀ i ∈ index, ∀ object, LeavesArchive (i.count object)) {v : NewVersion}
    (some : e.version? = some v) (h : s.InOrder) :
    ∃ outcome s', (writeStage (Exchange.metadata exchangePart) index policy).run e s
        = (outcome, s') ∧
      s'.InOrder ∧ s'.archive = (Archive.create v (s.archive, s.names)).2.1 ∧
      s'.names.name = s.names.name ∧ s.names.drawn < s'.names.drawn ∧
      (∀ op, s.bucketPlan op = [] → s'.bucketPlan op = []) ∧
      (outcome = .forward (e.written (s.archive.addressOf v s.names.next)) ∨
        ∃ created, created.bucketPlan = s.bucketPlan ∧
          Uncounted index policy e v outcome created) := by
  obtain ⟨marked, asked⟩ := Envelope.version?_eq_some_iff.1 some
  obtain ⟨created, create, inOrder, archive, names, plan⟩ := create_of_inOrder h v
  have counted : Beside created (countVersion index policy v created).2 :=
    (leavesArchive_countVersion counts v).beside inOrder
  have name : (countVersion index policy v created).2.names.name = s.names.name :=
    counted.name.trans (congrArg IdSource.name names : created.names.name = s.names.draw.name)
  have drawn : s.names.drawn < (countVersion index policy v created).2.names.drawn := by
    refine Nat.lt_of_lt_of_le (Nat.lt_succ_self _) (?_ : s.names.draw.drawn ≤ _)
    rw [← names]
    exact counted.drawn
  have process : (writeStage (Exchange.metadata exchangePart) index policy).process e s
      = (do
          countVersion index policy v
          pure (.forward (e.written (s.archive.addressOf v s.names.next))) :
            Action (RehearsalServices B) StepError Outcome) created := by
    simp only [writeStage, marked, asked, Bool.false_eq_true, if_false]
    rw [Action.bind_of_ok (retryingStep_of_ok policy _ create)]
  cases count : countVersion index policy v created with
  | mk answer s' =>
    rw [count] at counted name drawn
    have unplanned : ∀ op, s.bucketPlan op = [] → s'.bucketPlan op = [] := by
      rw [← plan]
      exact counted.unplanned
    have after : s'.archive = (Archive.create v (s.archive, s.names)).2.1 :=
      counted.archive.trans archive
    cases answer with
    | ok _ =>
      rw [Action.bind_of_ok count] at process
      refine ⟨_, s', ?_, counted.inOrder, after, name, drawn, unplanned, .inl rfl⟩
      rw [Stage.run, process]
      rfl
    | error err =>
      rw [Action.bind_of_error count] at process
      refine ⟨_, s', ?_, counted.inOrder, after, name, drawn, unplanned,
        .inr ⟨created, plan, err, ?_, rfl⟩⟩
      · rw [Stage.run, process]
      · rw [count]

/-! ## All records -/

section

variable {stage : Stage (RehearsalServices B)}

theorem length_passages (stage : Stage (RehearsalServices B)) (es : List Envelope)
    (s : RehearsalServices B) : (stage.passages es s).length = es.length := by
  induction es generalizing s with
  | nil => rfl
  | cons e rest ih => rw [Stage.passages, List.length_cons, ih, List.length_cons]

variable (writes : stage = writeStage (Exchange.metadata exchangePart) index policy)
  (counts : ∀ i ∈ index, ∀ object, LeavesArchive (i.count object))

include writes counts

/-- Every record meets services in order. -/
theorem of_mem_passages {es : List Envelope} (h : s.InOrder)
    {p : Passage (RehearsalServices B)} (mem : p ∈ stage.passages es s) :
    p.services.InOrder ∧ p.outcome = (stage.run p.envelope p.services).1 := by
  induction es generalizing s with
  | nil => cases mem
  | cons e rest ih =>
    have next : (stage.run e s).2.InOrder := by
      subst writes
      cases version : e.version? with
      | none =>
        obtain ⟨outcome, run, -⟩ := run_writeStage_of_none index policy version s
        rw [run]
        exact h
      | some v =>
        obtain ⟨outcome, s', run, inOrder, -⟩ := run_writeStage_of_some policy counts version h
        rw [run]
        exact inOrder
    rcases List.mem_cons.1 mem with rfl | mem
    · exact ⟨h, rfl⟩
    · exact ih next mem

/-- A stored record is forwarded, unless it could not be counted. -/
theorem outcome_of_stored {p : Passage (RehearsalServices B)} (ordered : p.services.InOrder)
    (outcome : p.outcome = (stage.run p.envelope p.services).1) {w : Stored}
    (stored : w ∈ p.stored?) :
    p.outcome = .forward (p.envelope.written w.url) ∨
      ∃ created, Uncounted index policy p.envelope w.version p.outcome created := by
  obtain ⟨v, version, rfl⟩ := Option.map_eq_some_iff.1 stored
  obtain ⟨_, s', run, -, -, -, -, -, ends⟩ :=
    run_writeStage_of_some policy counts version ordered
  rw [writes, run] at outcome
  rw [outcome]
  exact ends.imp_right fun ⟨created, _, uncounted⟩ => ⟨created, uncounted⟩

/-- A forwarded record was stored. -/
theorem stored_of_forward {p : Passage (RehearsalServices B)} (ordered : p.services.InOrder)
    (outcome : p.outcome = (stage.run p.envelope p.services).1) {e : Envelope}
    (forward : p.outcome = .forward e) : ∃ w ∈ p.stored?, e = p.envelope.written w.url := by
  cases version : p.envelope.version? with
  | none =>
    obtain ⟨_, run, ends⟩ := run_writeStage_of_none index policy version p.services
    rw [writes, run, forward] at outcome
    exact absurd outcome.symm (ends e)
  | some v =>
    have stored : p.stored?
        = some ⟨v, p.services.names.next,
            p.services.archive.addressOf v p.services.names.next⟩ := by
      rw [Passage.stored?, version]
      rfl
    refine ⟨_, stored, ?_⟩
    rcases outcome_of_stored writes counts ordered outcome stored with same | ⟨_, _, _, failed⟩
    · rw [forward] at same
      exact Outcome.forward.inj same
    · rw [forward] at failed
      cases failed

/-- **The ledger** once all records are through: those that were stored are entered in order. -/
theorem ledger_passages {es : List Envelope} (h : s.InOrder)
    (injective : Function.Injective s.names.name)
    (telling : ∀ e ∈ es, ∀ v ∈ e.version?, ∀ k,
      Telltale (s.names.name k) [s.archive.base, v.cloudId, v.representation, v.fileName])
    {log : List Stored} (ledger : Ledger s.archive s.names log) :
    (stage.after es s).InOrder ∧
      Ledger (stage.after es s).archive (stage.after es s).names
        (log ++ (stage.passages es s).filterMap Passage.stored?) := by
  induction es generalizing s log with
  | nil => exact ⟨h, by simpa [Stage.after, Stage.passages] using ledger⟩
  | cons e rest ih =>
    have others : ∀ e ∈ rest, ∀ v ∈ e.version?, ∀ k, Telltale (s.names.name k)
        [s.archive.base, v.cloudId, v.representation, v.fileName] :=
      fun e mem => telling e (List.mem_cons_of_mem _ mem)
    cases version : e.version? with
    | none =>
      obtain ⟨outcome, run, -⟩ := run_writeStage_of_none index policy version s
      rw [← writes] at run
      have skipped : (stage.passages (e :: rest) s).filterMap Passage.stored?
          = (stage.passages rest s).filterMap Passage.stored? := by
        rw [Stage.passages, run]
        exact List.filterMap_cons_none (by rw [Passage.stored?, version]; rfl)
      rw [Stage.after, run, skipped]
      exact ih h injective others ledger
    | some v =>
      obtain ⟨outcome, s', run, inOrder, archive, name, drawn, -⟩ :=
        run_writeStage_of_some policy counts version h
      rw [← writes] at run
      have entered : (stage.passages (e :: rest) s).filterMap Passage.stored?
          = ⟨v, s.names.next, s.archive.addressOf v s.names.next⟩ ::
            (stage.passages rest s').filterMap Passage.stored? := by
        rw [Stage.passages, run]
        exact List.filterMap_cons_some (by rw [Passage.stored?, version]; rfl)
      have ledger' := (ledger.create injective v
        (telling e List.mem_cons_self v version)).later name (Nat.succ_le_of_lt drawn)
      rw [← archive] at ledger'
      have base : s'.archive.base = s.archive.base := by rw [archive]; rfl
      rw [Stage.after, run, entered, List.append_cons]
      refine ih inOrder (name ▸ injective) ?_ ledger'
      rw [name, base]
      exact others

end

/-- What is found again of the records that went through a write stage. -/
structure FoundAgain (index : Option (RevisionIndex (RehearsalServices B))) (policy : RetryPolicy)
    (passages : List (Passage (RehearsalServices B))) (s : RehearsalServices B) : Prop where
  /-- A forwarded record was stored and carries the address of its file. -/
  forwarded : ∀ p ∈ passages, ∀ e, p.outcome = .forward e →
    ∃ w ∈ p.stored?, e.parameter? Parameter.outputUrl = some w.url
  /-- A stored record is forwarded, unless it could not be counted. -/
  stored : ∀ p ∈ passages, ∀ w ∈ p.stored?,
    p.outcome = .forward (p.envelope.written w.url) ∨
      ∃ created, Uncounted index policy p.envelope w.version p.outcome created
  /-- A listing tells the stored records that go to what it is asked for, and no others. -/
  listed : ∀ (policy : RetryPolicy) (query : DatasetInput) (task : Task),
    task.input = .datasets [query] →
      ∃ s', (datasetRevisions (Exchange.metadata exchangePart) policy task).tell s
        = ⟨passages.filterMap (Passage.record? query), s', none⟩
  /-- The content of a stored record is read back. -/
  read : ∀ p ∈ passages, ∀ w ∈ p.stored?, ∃ content, p.envelope.payload = some content ∧
    ∀ authorization, ((Exchange.archiveStore exchangePart).read w.url authorization s).1
      = .ok content
  /-- The archive tells the address of a stored record's file. -/
  located : ∀ p ∈ passages, ∀ w ∈ p.stored?,
    s.archive.fileAddress w.version.cloudId w.version.representation w.name w.version.fileName
      = .ok w.url

/-- **What is written is found again.** -/
theorem found_again [BucketStore B] (f : Fittings) (counted : Bool) (names : NamesInOrder B)
    (h : s.InOrder) {base : String} {pageSize : Nat} (empty : s.archive = .new base pageSize)
    (injective : Function.Injective s.names.name) {es : List Envelope}
    (telling : ∀ e ∈ es, ∀ v ∈ e.version?, ∀ k,
      Telltale (s.names.name k) [base, v.cloudId, v.representation, v.fileName])
    (countable : es.length ≤ Text.maxUnsigned) :
    FoundAgain (if counted then some (bucketIndex f.counter bucketsPart) else none) f.policy
      ((f.stage (.write counted)).passages es s) ((f.stage (.write counted)).after es s) := by
  have counts := leavesArchive_count_of_mem names f.counter counted
  have writes : (f.stage (.write counted) : Stage (RehearsalServices B))
      = writeStage (Exchange.metadata exchangePart)
        (if counted then some (bucketIndex f.counter bucketsPart) else none) f.policy := rfl
  have telling' : ∀ e ∈ es, ∀ v ∈ e.version?, ∀ k, Telltale (s.names.name k)
      [s.archive.base, v.cloudId, v.representation, v.fileName] := by
    intro e mem v asked k
    rw [empty]
    exact (telling e mem v asked k).withoutSlashes
  obtain ⟨inOrder, ledger⟩ := ledger_passages writes counts h injective telling'
    (empty ▸ Ledger.new base pageSize s.names)
  rw [List.nil_append] at ledger
  have entered : ∀ p ∈ (f.stage (.write counted)).passages es s, ∀ w ∈ p.stored?,
      w ∈ ((f.stage (.write counted)).passages es s).filterMap Passage.stored? :=
    fun p mem w stored => List.mem_filterMap.2 ⟨p, mem, stored⟩
  constructor
  case forwarded =>
    intro p mem e forward
    obtain ⟨ordered, outcome⟩ := of_mem_passages writes counts h mem
    obtain ⟨w, stored, rfl⟩ := stored_of_forward writes counts ordered outcome forward
    exact ⟨w, stored, Envelope.parameter?_written _ _⟩
  case stored =>
    intro p mem w stored
    obtain ⟨ordered, outcome⟩ := of_mem_passages writes counts h mem
    exact outcome_of_stored writes counts ordered outcome stored
  case listed =>
    intro policy query task input
    have few : ∀ q ∈ [query], (((f.stage (.write counted)).after es s).archive.entriesOf q).length
        ≤ Text.maxUnsigned := by
      intro q _
      rw [ledger.listed]
      refine Nat.le_trans (Nat.le_trans (List.length_filterMap_le _ _)
        (List.length_filterMap_le _ _)) ?_
      rw [length_passages]
      exact countable
    obtain ⟨s', -, told⟩ := tell_datasetRevisions policy input inOrder few
    refine ⟨s', ?_⟩
    rw [told, List.flatMap_singleton, ledger.listed, List.filterMap_filterMap, List.map_filterMap]
    refine congrArg (fun records => (⟨records, s', none⟩ : Telling (RehearsalServices B))) ?_
    exact congrArg (List.filterMap · _) (funext fun p => (p.record?_eq query).symm)
  case read =>
    intro p mem w stored
    have read := ledger.read_eq (entered p mem w stored)
    obtain ⟨v, version, rfl⟩ := Option.map_eq_some_iff.1 stored
    refine ⟨v.content, (Envelope.of_version? version).2.2.2.2, fun authorization => ?_⟩
    rw [fetch_of_inOrder inOrder, read]
  case located =>
    exact fun p mem w stored => ledger.fileAddress_eq (entered p mem w stored)

/-! ## A record that is not counted -/

/-- Names that stand out wherever there is no hash. -/
def hashes : IdSource := ⟨fun k => String.ofList (List.replicate (k + 1) '#'), 0⟩

theorem injective_hashes : Function.Injective hashes.name := by
  intro k k' same
  have lengths := congrArg (List.length ∘ String.toList) same
  simpa [hashes] using lengths

theorem telltale_hashes {texts : List String} (h : ∀ text ∈ texts, '#' ∉ text.toList) (k : Nat) :
    Telltale (hashes.name k) texts := by
  have name : (hashes.name k).toList = List.replicate (k + 1) '#' := String.toList_ofList
  have there : '#' ∈ (hashes.name k).toList := by
    rw [name]
    exact List.mem_cons_self
  refine ⟨fun slash => ?_, fun word => ?_, fun text mem inside => h text mem (inside.subset there)⟩
  · rw [name] at slash
    exact absurd (List.eq_of_mem_replicate slash) (by decide)
  · have none : ∀ w ∈ Locator.words, '#' ∉ w.toList := by decide
    exact none _ word there

def shelfFittings : Fittings where
  policy := .none
  indexing := ⟨Dict.empty⟩
  counter := ⟨10, by decide⟩

def shelfRecord : Envelope :=
  { Envelope.new ⟨1⟩ "shelf" "http://store/records/book/representations/raw/versions/1/files/text"
    with
    payload := some [60]
    parameters := Dict.ofList [(Parameter.providerId, "library"),
      (Parameter.outputDataset, "shelf"), (Parameter.newRepresentationName, "edm")]
    revision := some (.new "shelved" "library" .epoch) }

/-- What the record is listed under. -/
def shelfQuery : DatasetInput := ⟨"library", "shelf", "edm", .new "shelved" "library" .epoch⟩

/-- Services with an empty archive, and the failures that are planned for the counting of rows. -/
def shelfServices (plan : List (Option (Fault StoreError))) : RehearsalServices MemoryBuckets :=
  let services := (RehearsalPlant.start () () () MemoryBuckets.empty (.new "http://store" 100)
    hashes .epoch : RehearsalPlant Unit Unit Unit MemoryBuckets).services
  bucketsPart.set ((Faulty.ofStore .empty).arrange .increment plan, hashes) services

theorem found_again_shelf :
    (shelfServices []).InOrder ∧
      FoundAgain (some (bucketIndex shelfFittings.counter bucketsPart)) shelfFittings.policy
        ((shelfFittings.stage (.write true)).passages [shelfRecord, shelfRecord]
          (shelfServices []))
        ((shelfFittings.stage (.write true)).after [shelfRecord, shelfRecord]
          (shelfServices [])) := by
  have inOrder : (shelfServices []).InOrder := ⟨rfl, rfl, rfl, rfl, rfl⟩
  have empty : (shelfServices []).archive = .new "http://store" 100 := rfl
  have version : shelfRecord.version?.map
      (fun v => (v.cloudId, v.representation, v.fileName)) = some ("book", "edm", "text") := by
    decide +kernel
  refine ⟨inOrder, found_again shelfFittings true namesInOrder_memory inOrder empty
    injective_hashes ?_ (by decide)⟩
  intro e mem v asked k
  obtain rfl : e = shelfRecord := by simpa using mem
  rw [Option.mem_def.1 asked, Option.map_some, Option.some.injEq, Prod.mk.injEq,
    Prod.mk.injEq] at version
  obtain ⟨record, representation, file⟩ := version
  rw [record, representation, file]
  exact telltale_hashes (by decide) k

/-- **A record that could not be counted is listed**, although it is not forwarded. -/
theorem listed_though_uncounted :
    ((shelfFittings.stage (.write true)).passages [shelfRecord]
        (shelfServices [some ⟨.storage "connection reset", false⟩])).map (·.outcome.counter)
      = [.errors] ∧
    ((datasetsFeed (Exchange.metadata exchangePart) .none [shelfQuery]).tell
        ((shelfFittings.stage (.write true)).after [shelfRecord]
          (shelfServices [some ⟨.storage "connection reset", false⟩]))).records
      = [⟨"http://store/records/book/representations/edm/versions/#/files/text", some "book",
          false⟩] := by
  decide +kernel

end RehearsalServices

end Conveyor
