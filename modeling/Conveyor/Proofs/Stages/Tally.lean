import Conveyor.Proofs.Buckets.View
import Conveyor.Proofs.Stages.Write

/-!
# What the revision index counts

A record is counted under one text, its provider and its dataset put together, and only if it is
forwarded.  So the rows of an object are the forwarded records whose provider and dataset come to
that text: those of one dataset, unless another provider and dataset come to the same text.

* `writings` — records that go through write stages which count.
* `Passage.dataset?` — the provider and the dataset of a record that was forwarded.
* `Tallied` — what holds of the services once some objects were counted; `Tallied.create`,
  `ends_count` and `ends_write` are the calls and the stage, and `count_ends` is what a count does
  to the services.
* `Indexed`, **`indexed_by_object`** — what the buckets say once all records are through.
* `joined_datasets` — two datasets that are counted as one.
-/

namespace Conveyor

open Rehearsal

/-- The provider and the dataset of a record, if it was forwarded and names both. -/
def Passage.dataset? {σ : Type} (p : Passage σ) : Option (String × String) :=
  match p.outcome with
  | .forward _ => do
      let provider ← p.envelope.parameter? Parameter.providerId
      let dataset ← p.envelope.parameter? Parameter.outputDataset
      pure (provider, dataset)
  | _ => none

namespace RehearsalServices

variable {B : Type}

/-- The bucket store, with the failures in store for it. -/
def buckets (s : RehearsalServices B) : Faulty BucketOp StoreError B := s.inner.depot.store.buckets

/-! ## Records that are written and counted -/

section

variable [BucketStore B]

/-- Records that go through write stages which count, each with what its stage is built with. -/
def writings :
    List (Fittings × Envelope) → RehearsalServices B → List (Passage (RehearsalServices B))
  | [], _ => []
  | (f, e) :: rest, s =>
      ⟨e, s, ((f.stage (.write true)).run e s).1⟩ ::
        writings rest ((f.stage (.write true)).run e s).2

/-- The services once all records are through. -/
def afterWritings : List (Fittings × Envelope) → RehearsalServices B → RehearsalServices B
  | [], s => s
  | (f, e) :: rest, s => afterWritings rest ((f.stage (.write true)).run e s).2

/-- The objects under which forwarded records are counted. -/
def objects (datasets : List (String × String)) : List String :=
  datasets.map fun (provider, dataset) => datasetObject provider dataset

/-- What the buckets say of records that were written. -/
structure Indexed (passages : List (Passage (RehearsalServices B))) (s : RehearsalServices B) :
    Prop where
  /-- The rows of an object are the forwarded records whose provider and dataset come to it. -/
  objects : ∀ object, (totalRows object s.buckets.store).1
    = .ok ((objects (passages.filterMap Passage.dataset?)).count object)
  /-- They are the forwarded records of a dataset if no other comes to the same object. -/
  datasets : ∀ provider dataset,
    (∀ p ∈ passages, ∀ other ∈ p.dataset?,
      datasetObject other.1 other.2 = datasetObject provider dataset →
        other = (provider, dataset)) →
    (totalRows (datasetObject provider dataset) s.buckets.store).1
      = .ok ((passages.filterMap Passage.dataset?).count (provider, dataset))

end

/-- Services on their own that have not counted anything, with a bucket store that may fail but
then has no effect, and names that never recur. -/
structure Uncounting (empty : B) (s : RehearsalServices B) : Prop where
  alone : s.company = .alone
  store : s.buckets.store = empty
  harmless : ∀ op, s.buckets.Harmless op
  injective : Function.Injective s.names.name

/-! ## What holds along the way -/

/-- Services on their own whose buckets hold a row for every object that was counted. -/
structure Tallied (v : BucketView B) (counted : List String) (s : RehearsalServices B) : Prop where
  alone : s.company = .alone
  sane : v.faulty.sane s.buckets
  stocked : Stocked (v.shelf s.buckets.store) s.names
  rows : ∀ object, ((v.shelf s.buckets.store object).map Bucket.rows).sum = counted.count object

section

variable {v : BucketView B} {counted : List String} {s s' : RehearsalServices B}

/-- Names may be drawn while nothing is counted. -/
theorem Tallied.of_same (h : Tallied v counted s) (alone : s'.company = .alone)
    (same : s'.buckets = s.buckets) (drawn : DrawnSince s.names s'.names) :
    Tallied v counted s' where
  alone := alone
  sane := same ▸ h.sane
  stocked := by
    rw [same]
    exact .later _ h.stocked drawn.1 drawn.2
  rows object := by
    rw [same]
    exact h.rows object

theorem Tallied.sleep (h : Tallied v counted s) (delay : Millis) :
    Tallied v counted (Clock.sleep delay s) := by
  have slept : Clock.sleep delay s = s.setClock (s.elapsed + sleepTime delay) :=
    Timed.sleep_of_alone h.alone delay
  rw [slept]
  exact h.of_same h.alone rfl (.refl _)

/-- To store a version draws a name and leaves the buckets alone, whatever becomes of the call. -/
theorem Tallied.create (version : NewVersion) :
    ((Exchange.metadata exchangePart).create version).Keeps (Tallied v counted) := by
  intro s h
  obtain ⟨fault, plan, run, -⟩ :=
    Faulty.call_eq ServiceOp.create (Depot.create version) s.inner.depot
  have kept : (Depot.create version : Action (Depot (Faulty BucketOp StoreError B)) _ _).Keeps
      fun d => d.buckets = s.buckets ∧ DrawnSince s.names d.ids :=
    fun d ⟨same, drawn⟩ => ⟨same, drawn.draw⟩
  obtain ⟨same, drawn⟩ := kept.obey fault s.inner.depot.store ⟨rfl, .refl _⟩
  have after : ((Exchange.metadata exchangePart).create version s).2
      = { s with inner := { s.inner with
          journal := .create version :: s.inner.journal
          depot := (Faulty.call ServiceOp.create (Depot.create version) s.inner.depot).2 } } := rfl
  rw [after, run]
  exact h.of_same h.alone same drawn

variable [BucketStore B]

/-- To count a record is to count a row in the bucket store, and touches nothing else. -/
theorem count_ends (lawful : v.Lawful) (counter : BucketedCounter) (object : String)
    (sane : v.faulty.sane s.buckets) (stocked : Stocked (v.shelf s.buckets.store) s.names) :
    ((bucketIndex counter bucketsPart).count object).Ends
      (fun _ s' => ∃ b x, BucketedCounter.Added v.faulty counter object s.buckets s.names b x ∧
        s' = bucketsPart.set x s)
      (fun _ s' => ∃ x, BucketedCounter.Uncounted v.faulty counter object s.buckets s.names x ∧
        s' = bucketsPart.set x s) s := by
  rcases (BucketedCounter.addRow_ends lawful.faulty counter object sane stocked).cases with
    ⟨b, x, run, added⟩ | ⟨err, x, run, uncounted⟩
  · exact Action.ends_of_ok (count_of_ok run) ⟨b, x, added, rfl⟩
  · exact Action.ends_of_error (count_of_error run) ⟨x, uncounted, rfl⟩

/-- **A count** is one more row of its object, or none. -/
theorem ends_count (lawful : v.Lawful) (counter : BucketedCounter) (object : String)
    (h : Tallied v counted s) :
    ((bucketIndex counter bucketsPart).count object).Ends
      (fun _ => Tallied v (counted ++ [object])) (fun _ => Tallied v counted) s := by
  refine (count_ends lawful counter object h.sane h.stocked).mono ?_ ?_
  · rintro _ _ ⟨b, x, added, rfl⟩
    obtain ⟨full, last, -, -, becomes⟩ := added.becomes
    refine ⟨h.alone, becomes.sane, added.stocked, fun other => ?_⟩
    rw [List.count_append, ← h.rows]
    exact added.sum_eq other
  · rintro _ _ ⟨x, uncounted, rfl⟩
    obtain ⟨_, -, becomes⟩ := uncounted.becomes
    refine ⟨h.alone, becomes.sane, uncounted.stocked, fun other => ?_⟩
    rw [← h.rows]
    exact uncounted.sum_eq other

/-- **A record in a write stage** is counted if it is forwarded and names a dataset, and only
then. -/
theorem ends_write (lawful : v.Lawful) (f : Fittings) (e : Envelope) (h : Tallied v counted s) :
    ((f.stage (.write true)).process e).Ends
      (fun outcome => Tallied v (counted ++ objects (Passage.dataset? ⟨e, s, outcome⟩).toList))
      (fun _ => Tallied v counted) s := by
  have uncounted : ∀ {outcome : Outcome}, Passage.dataset? ⟨e, s, outcome⟩ = none →
      Tallied v (counted ++ objects (Passage.dataset? ⟨e, s, outcome⟩).toList) s := by
    intro outcome none
    rw [none]
    simpa [objects] using h
  simp only [Fittings.stage, writeStage]
  split
  · exact Action.ends_of_ok rfl (uncounted rfl)
  rename_i unmarked
  cases asked : versionOf e with
  | error message => exact Action.ends_of_ok rfl (uncounted rfl)
  | ok version =>
    have version? : e.version? = some version :=
      Envelope.version?_eq_some_iff.2 ⟨by simpa using unmarked, asked⟩
    obtain ⟨provider, dataset, -⟩ := Envelope.of_version? version?
    have created := ((Tallied.create version).retryingStep (fun _ delay h => h.sleep delay)
      f.policy ("Error while writing " ++ e.resource)).ends h
    refine created.bind fun url s' h => ?_
    cases named : version.dataset with
    | none =>
      have uncounted : Passage.dataset? ⟨e, s, .forward (e.written url)⟩ = none := by
        simp [Passage.dataset?, dataset, named]
      simp only [countVersion, named]
      refine Action.ends_of_ok rfl ?_
      rw [uncounted]
      simpa [objects] using h
    | some name =>
      have counts : Passage.dataset? ⟨e, s, .forward (e.written url)⟩
          = some (version.provider, name) := by
        simp [Passage.dataset?, provider, dataset, named]
      simp only [countVersion, named]
      have counted := Action.Ends.retryingStep (fun s h => ends_count lawful f.counter
        (datasetObject version.provider name) h) (fun _ delay h => h.sleep delay) f.policy
        ("Error while counting " ++ datasetObject version.provider name) h
      refine counted.bind fun _ s' h => Action.ends_of_ok rfl ?_
      rw [counts]
      exact h

/-- **Records in write stages**: those are counted that are forwarded and name a dataset. -/
theorem tallied_writings (lawful : v.Lawful) (ws : List (Fittings × Envelope))
    (h : Tallied v counted s) :
    Tallied v (counted ++ objects ((writings ws s).filterMap Passage.dataset?))
      (afterWritings ws s) := by
  induction ws generalizing counted s with
  | nil => simpa [writings, afterWritings, objects] using h
  | cons w rest ih =>
    obtain ⟨f, e⟩ := w
    have one : Tallied v (counted ++ objects
        (Passage.dataset? ⟨e, s, ((f.stage (.write true)).run e s).1⟩).toList)
          ((f.stage (.write true)).run e s).2 := by
      rw [Stage.run]
      rcases (ends_write lawful f e h).cases with ⟨outcome, s', run, h⟩ | ⟨err, s', run, h⟩
      · rw [run]
        exact h
      · rw [run]
        simpa [objects, Passage.dataset?, Outcome.ofStepError, Outcome.failed] using h
    have split : (writings ((f, e) :: rest) s).filterMap Passage.dataset?
        = (Passage.dataset? ⟨e, s, ((f.stage (.write true)).run e s).1⟩).toList ++
          (writings rest ((f.stage (.write true)).run e s).2).filterMap Passage.dataset? := by
      rw [writings, List.filterMap_cons]
      cases Passage.dataset? ⟨e, s, ((f.stage (.write true)).run e s).1⟩ <;> rfl
    rw [split, objects, List.map_append, ← List.append_assoc]
    exact ih one

/-- What the buckets say at the end. -/
theorem Tallied.indexed (lawful : v.Lawful) (sure : ∀ s, v.sure s)
    {passages : List (Passage (RehearsalServices B))}
    (h : Tallied v (objects (passages.filterMap Passage.dataset?)) s) : Indexed passages s := by
  have total : ∀ object, (totalRows object s.buckets.store).1
      = .ok ((objects (passages.filterMap Passage.dataset?)).count object) := by
    intro object
    rcases (totalRows_ends lawful object h.sane.1).cases with
      ⟨_, _, run, rfl, -⟩ | ⟨_, _, _, fails⟩
    · rw [run, h.rows]
    · exact absurd (sure _) fails.unsure
  refine ⟨total, fun provider dataset alone => ?_⟩
  rw [total, objects, List.count, List.countP_map]
  refine congrArg Except.ok (List.countP_congr fun other mem => ?_)
  obtain ⟨p, there, told⟩ := List.mem_filterMap.1 mem
  constructor
  · intro same
    exact beq_iff_eq.2 (alone p there other told (beq_iff_eq.1 same))
  · intro same
    rw [beq_iff_eq.1 same]
    exact beq_self_eq_true _

theorem Uncounting.indexed (lawful : v.Lawful) (sure : ∀ s, v.sure s) {empty : B}
    (sane : v.sane empty) (none : ∀ object, v.shelf empty object = [])
    (h : Uncounting empty s) (ws : List (Fittings × Envelope)) :
    Indexed (writings ws s) (afterWritings ws s) := by
  obtain ⟨alone, rfl, harmless, injective⟩ := h
  have start : Tallied v [] s :=
    ⟨alone, ⟨sane, harmless⟩, .of_nil injective none, fun object => by rw [none]; rfl⟩
  exact (tallied_writings lawful ws start).indexed lawful sure

end

/-! ## What the buckets say -/

/-- **What the revision index counts**: the rows of an object are the forwarded records whose
provider and dataset come to it when they are put together, and those of one dataset if no other
forwarded record's do; in memory and in a table. -/
theorem indexed_by_object (ws : List (Fittings × Envelope)) :
    (∀ s : RehearsalServices MemoryBuckets, Uncounting .empty s →
      Indexed (writings ws s) (afterWritings ws s)) ∧
    ∀ s : RehearsalServices TableBuckets, Uncounting Table.empty s →
      Indexed (writings ws s) (afterWritings ws s) :=
  ⟨fun _ h => h.indexed lawful_memory (fun _ => trivial) trivial (fun _ => rfl) ws,
    fun _ h => h.indexed lawful_table (fun _ => trivial) TableBuckets.sane_empty (fun _ => rfl) ws⟩

/-- A record of a dataset of a provider. -/
def recordOf (provider dataset : String) : Envelope :=
  (shelfRecord.withParameter Parameter.providerId provider).withParameter Parameter.outputDataset
    dataset

/-- Services with a table of buckets, and nothing in them. -/
def tableServices : RehearsalServices TableBuckets :=
  (RehearsalPlant.start () () () Table.empty (.new "http://store" 100) hashes .epoch :
    RehearsalPlant Unit Unit Unit TableBuckets).services

theorem uncounting_shelfServices (plan : List (Option (Fault StoreError)))
    (harmless : ∀ fault, some fault ∈ plan → fault.afterwards = false) :
    Uncounting .empty (shelfServices plan) where
  alone := rfl
  store := rfl
  harmless := by
    intro op fault mem
    cases op with
    | increment => exact harmless fault mem
    | _ => cases mem
  injective := injective_hashes

/-- The count of the first record fails, so it is not forwarded; the two others are counted, each
for its own dataset. -/
theorem indexed_shelf :
    ((writings [(shelfFittings, recordOf "north" "maps"), (shelfFittings, recordOf "north" "maps"),
        (shelfFittings, recordOf "north" "charts")]
        (shelfServices [some ⟨.storage "connection reset", false⟩])).filterMap Passage.dataset?
      = [("north", "maps"), ("north", "charts")]) ∧
    Indexed (writings [(shelfFittings, recordOf "north" "maps"),
        (shelfFittings, recordOf "north" "maps"), (shelfFittings, recordOf "north" "charts")]
        (shelfServices [some ⟨.storage "connection reset", false⟩]))
      (afterWritings [(shelfFittings, recordOf "north" "maps"),
        (shelfFittings, recordOf "north" "maps"), (shelfFittings, recordOf "north" "charts")]
        (shelfServices [some ⟨.storage "connection reset", false⟩])) ∧
    Indexed (writings [(shelfFittings, recordOf "north" "maps")] tableServices)
      (afterWritings [(shelfFittings, recordOf "north" "maps")] tableServices) :=
  ⟨by decide +kernel, (indexed_by_object _).1 _ (uncounting_shelfServices _ (by simp)),
    (indexed_by_object _).2 _ ⟨rfl, rfl, nofun, injective_hashes⟩⟩

/-- **Two datasets that are counted as one**: of two records one goes to the dataset, but both
are counted for it. -/
theorem joined_datasets :
    Uncounting .empty (shelfServices []) ∧
    ((writings [(shelfFittings, recordOf "ab" "c"), (shelfFittings, recordOf "a" "bc")]
        (shelfServices [])).filterMap Passage.dataset?).count ("a", "bc") = 1 ∧
    (totalRows (datasetObject "a" "bc")
        (afterWritings [(shelfFittings, recordOf "ab" "c"), (shelfFittings, recordOf "a" "bc")]
          (shelfServices [])).buckets.store).1 = .ok 2 :=
  ⟨uncounting_shelfServices [] nofun, by decide +kernel, by decide +kernel⟩

end RehearsalServices

end Conveyor
