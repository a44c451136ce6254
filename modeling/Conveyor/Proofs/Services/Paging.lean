import Conveyor.Proofs.Services.Listing

/-!
# Pages that nobody sees

The records of a task that lists datasets are those that the archive has listed under them, dataset
by dataset.  How many of them fit on a page only tells how often the archive is asked.

* `recordsOf` — the records that are listed for a dataset.
* **`told_whatever_pages`** — what is told of datasets, and what is asked for it.
-/

namespace Conveyor

open Rehearsal

/-- The records that are listed for a dataset's representation under a revision. -/
def recordsOf (listed : List ListedEntry) (query : DatasetInput) : List SourceRecord :=
  (listed.filter fun l =>
    (l.provider, l.dataset, l.revision, l.entry.representation)
      = (query.provider, query.dataset, query.revision.name, query.representation)).map fun l =>
    ⟨l.entry.fileUrl, some l.entry.cloudId, l.entry.deleted⟩

theorem map_entriesOf (a : Archive) (query : DatasetInput) :
    (a.entriesOf query).map SourceRecord.ofEntry = recordsOf a.listed query := by
  rw [Archive.entriesOf, List.map_map, recordsOf]
  refine congrArg _ (List.filter_congr fun l _ => ?_)
  rw [Bool.eq_iff_iff]
  simp [and_assoc]

namespace RehearsalServices

variable {B : Type} {s : RehearsalServices B}

/-- **Pages do not show**: the records of a task that lists datasets are those that are listed
under each of them, in order, so often as the task lists it, and there are no more; archives that
have listed the same tell the same, whatever the size of their pages.  An archive is asked for every
page of every dataset once. -/
theorem told_whatever_pages (policy : RetryPolicy) {task : Task} {queries : List DatasetInput}
    (input : task.input = .datasets queries) (h : s.InOrder)
    (countable : ∀ query ∈ queries, (s.archive.entriesOf query).length ≤ Text.maxUnsigned) :
    (∃ s', Streams (Exchange.metadata exchangePart) policy queries s
          (queries.flatMap (recordsOf s.archive.listed)) s' ∧
      (datasetRevisions (Exchange.metadata exchangePart) policy task).tell s
        = ⟨queries.flatMap (recordsOf s.archive.listed), s', none⟩ ∧
      s'.archive = s.archive ∧
      (∀ query ∈ queries, s.archive.Paged query (s.archive.tokens query)) ∧
      s'.inner.journal
        = (queries.flatMap fun query => (s.archive.tokens query).map (.list query)).reverse ++
          s.inner.journal) ∧
    ∀ other : RehearsalServices B, other.InOrder → other.archive.listed = s.archive.listed →
      ∃ other', (datasetRevisions (Exchange.metadata exchangePart) policy task).tell other
        = ⟨queries.flatMap (recordsOf s.archive.listed), other', none⟩ := by
  have listed (a : Archive) : (queries.flatMap fun query =>
      (a.entriesOf query).map SourceRecord.ofEntry) = queries.flatMap (recordsOf a.listed) :=
    congrArg (List.flatMap · queries) (funext (map_entriesOf a))
  constructor
  · obtain ⟨s', beside, streams, told, entered⟩ := exists_streams policy queries h countable
    rw [listed] at streams told
    refine ⟨s', streams, ?_, beside.archive, fun query mem => ?_, entered⟩
    · rw [datasetRevisions, input]
      exact told
    · exact s.archive.paged query (countable query mem)
  · intro other inOrder same
    have countable' : ∀ query ∈ queries,
        (other.archive.entriesOf query).length ≤ Text.maxUnsigned := by
      intro query mem
      rw [Archive.entriesOf, same]
      exact countable query mem
    obtain ⟨other', -, told⟩ := tell_datasetRevisions policy input inOrder countable'
    rw [listed, same] at told
    exact ⟨other', told⟩

/-- A version of a record that is listed under a representation of the dataset `stock`. -/
def stocked (record representation : String) (deleted : Bool) : ListedEntry :=
  ⟨"library", "stock", "harvested", ⟨record, representation, "1", "at " ++ record, deleted⟩⟩

/-- Services that list some versions on pages of a size. -/
def listingServices (pageSize : Nat) : RehearsalServices Unit :=
  (RehearsalPlant.start () () () ()
    { Archive.new "http://store" pageSize with
      listed := [stocked "a" "raw" false, stocked "b" "edm" false, stocked "c" "raw" true,
        stocked "d" "raw" false] }
    ⟨toString, 0⟩ .epoch : RehearsalPlant Unit Unit Unit Unit).services

/-- What the versions are listed under. -/
def stockQuery : DatasetInput :=
  ⟨"library", "stock", "raw", .new "harvested" "library" .epoch⟩

/-- The dataset twice, and one without versions between. -/
def stockQueries : List DatasetInput :=
  [stockQuery, { stockQuery with dataset := "none" }, stockQuery]

def listingTask : Task := (Task.new ⟨1⟩ "list" "copy").withInput (.datasets stockQueries)

/-- Three versions fit on two pages of two, so the archive is asked five times. -/
theorem told_whatever_pages_twice :
    (listingServices 2).InOrder ∧
    (∃ s', (datasetRevisions (Exchange.metadata exchangePart) .none listingTask).tell
        (listingServices 2)
      = ⟨[⟨"at a", some "a", false⟩, ⟨"at c", some "c", true⟩, ⟨"at d", some "d", false⟩,
          ⟨"at a", some "a", false⟩, ⟨"at c", some "c", true⟩, ⟨"at d", some "d", false⟩],
        s', none⟩ ∧ s'.inner.journal.length = 5) ∧
    ∃ s', (datasetRevisions (Exchange.metadata exchangePart) .none listingTask).tell
        (listingServices 100)
      = ⟨[⟨"at a", some "a", false⟩, ⟨"at c", some "c", true⟩, ⟨"at d", some "d", false⟩,
          ⟨"at a", some "a", false⟩, ⟨"at c", some "c", true⟩, ⟨"at d", some "d", false⟩],
        s', none⟩ := by
  have inOrder (pageSize : Nat) : (listingServices pageSize).InOrder := ⟨rfl, rfl, rfl, rfl, rfl⟩
  have input : listingTask.input = .datasets stockQueries := rfl
  obtain ⟨⟨s', -, told, -, -, entered⟩, others⟩ :=
    told_whatever_pages .none input (inOrder 2) (by decide +kernel)
  refine ⟨inOrder 2, ⟨s', told, ?_⟩, others (listingServices 100) (inOrder 100) rfl⟩
  rw [entered]
  decide +kernel

end RehearsalServices

end Conveyor
