import Conveyor.Proofs.Services.Undisturbed
import Conveyor.Proofs.Submission.Publication
import Mathlib.Algebra.Order.Floor.Div

/-!
# Listings of the archive

A listing is asked for page by page, and the token of a page tells how many entries come before the
next one.  Since tokens are read back as they were written, no entry is skipped or told twice.

* `Text.readUnsigned?_toString`, `Archive.startOf_toString` — tokens that are read back.
* `Archive.tokens` — the tokens of all pages of a dataset, and `Archive.paged`, how many they are.
* `Traverses`, `Streams` — pages that are followed for as long as there is a next one;
  `Traverses.tell`, a feed with enough pages at hand tells the same.
* **`exists_traverses`** — the pages of a listing from a token on hold all entries that are left.
* **`exists_streams`** — the records of some datasets, and the calls that are made for them.
* `tell_datasetRevisions` — the records of a task that lists datasets.
-/

namespace Conveyor

open Rehearsal

/-- A number of the machine is read back from its digits. -/
theorem Text.readUnsigned?_toString {n : Nat} (h : n ≤ maxUnsigned) :
    readUnsigned? (toString n).toList = some n := by
  have text : (toString n).toList = digitsOf n := String.toList_ofList
  have number := natOfDigits?_digitsOf n
  obtain ⟨d, ds, digits, digit⟩ := exists_digitsOf_eq_cons n
  rw [digits] at number
  simp only [text, digits, readUnsigned?]
  split
  · rename_i same
    cases (List.cons.inj same).1
    exact absurd digit (by decide)
  · rw [number, Option.filter_some, if_pos (by simpa using h)]

namespace Archive

theorem startOf_toString {n : Nat} (h : n ≤ Text.maxUnsigned) :
    startOf (some (toString n)) = .ok n := by
  simp only [startOf, Text.readUnsigned?_toString h]

variable (a : Archive) (query : DatasetInput)

theorem representation_of_mem_entriesOf {e : RevisionEntry} (h : e ∈ a.entriesOf query) :
    e.representation = query.representation := by
  obtain ⟨l, mem, rfl⟩ := List.mem_map.1 h
  have listed := (List.mem_filter.1 mem).2
  simp only [Bool.and_eq_true, decide_eq_true_eq] at listed
  exact listed.2

theorem length_entriesOf_le : (a.entriesOf query).length ≤ a.listed.length := by
  rw [entriesOf, List.length_map]
  exact List.length_filter_le ..

/-- What is listed belongs to the wanted representation. -/
theorem pageRecords_pageFrom (start : Nat) :
    pageRecords query (a.pageFrom (a.entriesOf query) start)
      = (((a.entriesOf query).drop start).take a.pageSize).map SourceRecord.ofEntry := by
  refine congrArg (List.map _) (List.filter_eq_self.2 fun e mem => ?_)
  exact decide_eq_true
    (a.representation_of_mem_entriesOf query (List.mem_of_mem_drop (List.mem_of_mem_take mem)))

/-! ## Pages and their tokens -/

/-- The tokens of all pages of a dataset: there is one page even if it is empty. -/
def tokens : List (Option String) :=
  none :: (List.range (max 1 ((a.entriesOf query).length ⌈/⌉ a.pageSize) - 1)).map fun i =>
    some (toString ((i + 1) * a.pageSize))

/-- Tokens with which a listing is asked for, one page after the other. -/
structure Paged (tokens : List (Option String)) : Prop where
  calls : tokens.length = max 1 ((a.entriesOf query).length ⌈/⌉ a.pageSize)
  first : tokens.head? = some none
  increasing : ∃ starts : List Nat,
    tokens.map startOf = starts.map .ok ∧ starts.Pairwise (· < ·)

/-- How many pages there are: enough for all entries, and none in vain but the only one. -/
theorem exists_pages : ∃ n, max 1 ((a.entriesOf query).length ⌈/⌉ a.pageSize) = n + 1 ∧
    (a.entriesOf query).length ≤ (n + 1) * a.pageSize ∧
    (n = 0 ∨ n * a.pageSize < (a.entriesOf query).length) := by
  have positive := a.pageSize_pos
  set m := (a.entriesOf query).length
  have whole (k : Nat) : m ⌈/⌉ a.pageSize ≤ k ↔ m ≤ k * a.pageSize := by
    rw [ceilDiv_le_iff_le_smul positive, smul_eq_mul, Nat.mul_comm]
  refine ⟨max 1 (m ⌈/⌉ a.pageSize) - 1, by omega, (whole _).1 (by omega), ?_⟩
  by_cases many : 1 < m ⌈/⌉ a.pageSize
  · have short := mt (whole (max 1 (m ⌈/⌉ a.pageSize) - 1)).2 (by omega)
    exact .inr (by omega)
  · exact .inl (by omega)

theorem paged (countable : (a.entriesOf query).length ≤ Text.maxUnsigned) :
    a.Paged query (a.tokens query) := by
  obtain ⟨n, pages, -, needed⟩ := a.exists_pages query
  rw [tokens, pages, Nat.add_sub_cancel]
  refine ⟨by rw [pages]; simp, rfl, (List.range (n + 1)).map (· * a.pageSize), ?_, ?_⟩
  · rw [List.range_succ_eq_map, List.map_cons, List.map_cons, List.map_cons, List.map_map,
      List.map_map, List.map_map, Nat.zero_mul]
    refine congrArg _ (List.map_congr_left fun i mem => startOf_toString ?_)
    have lt := List.mem_range.1 mem
    have : (i + 1) * a.pageSize ≤ n * a.pageSize := Nat.mul_le_mul_right _ lt
    omega
  · exact List.pairwise_lt_range.map _ fun i j lt => Nat.mul_lt_mul_of_pos_right lt a.pageSize_pos

end Archive

theorem Feed.tell_ofRecords {V : Type} (records : List SourceRecord) (rest : Feed V) (v : V) :
    (Feed.ofRecords records rest).tell v
      = { rest.tell v with records := records ++ (rest.tell v).records } := by
  induction records with
  | nil => rfl
  | cons r records ih =>
    have first : (Feed.ofRecords (r :: records) rest).tell v
        = { (Feed.ofRecords records rest).tell v with
            records := r :: ((Feed.ofRecords records rest).tell v).records } := rfl
    rw [first, ih]
    rfl

/-! ## Pages that are followed -/

section

variable {σ : Type} [Clock σ] (metadata : MetadataService σ) (policy : RetryPolicy)

/-- The pages of a dataset that are followed from a token on for as long as there is a next one:
the tokens with which they are asked for, and the records that they tell. -/
inductive Traverses (query : DatasetInput) :
    Option String → σ → List (Option String) → List SourceRecord → σ → Prop where
  | last {token : Option String} {page : Page RevisionEntry} {s s' : σ}
      (asked : listingPage metadata policy query token s = (.ok page, s'))
      (last : page.next = none) : Traverses query token s [token] (pageRecords query page) s'
  | more {token : Option String} {page : Page RevisionEntry} {s s' s'' : σ} {next : String}
      {tokens : List (Option String)} {records : List SourceRecord}
      (asked : listingPage metadata policy query token s = (.ok page, s'))
      (more : page.next = some next) (rest : Traverses query (some next) s' tokens records s'') :
      Traverses query token s (token :: tokens) (pageRecords query page ++ records) s''

/-- Datasets whose pages are followed, one dataset after the other. -/
inductive Streams : List DatasetInput → σ → List SourceRecord → σ → Prop where
  | nil (s : σ) : Streams [] s [] s
  | cons {query : DatasetInput} {queries : List DatasetInput} {s s' s'' : σ}
      {tokens : List (Option String)} {here there : List SourceRecord}
      (first : Traverses metadata policy query none s tokens here s')
      (rest : Streams queries s' there s'') : Streams (query :: queries) s (here ++ there) s''

variable {metadata policy} {query : DatasetInput} {token : Option String} {s s' : σ}
  {tokens : List (Option String)} {records : List SourceRecord}

/-- **A feed with enough pages at hand** tells what is found by following the pages. -/
theorem Traverses.tell (h : Traverses metadata policy query token s tokens records s')
    (rest : Feed σ) {limit : Nat} (enough : tokens.length ≤ limit) :
    (datasetFeed metadata policy query rest limit token).tell s
      = { rest.tell s' with records := records ++ (rest.tell s').records } := by
  induction h generalizing limit with
  | last asked last =>
    obtain ⟨limit, rfl⟩ := Nat.exists_eq_succ_of_ne_zero (Nat.one_le_iff_ne_zero.1 enough)
    rw [datasetFeed, Feed.tell, asked]
    simp only [Feed.tell_ofRecords, last]
  | more asked more _ ih =>
    obtain ⟨limit, rfl⟩ := Nat.exists_eq_succ_of_ne_zero (Nat.ne_zero_of_lt enough)
    rw [datasetFeed, Feed.tell, asked]
    simp only [Feed.tell_ofRecords, more]
    rw [ih (Nat.le_of_succ_le_succ enough), List.append_assoc]

end

namespace RehearsalServices

variable {B : Type} {s : RehearsalServices B}

/-- A page is asked for once, since the archive answers. -/
theorem listingPage_of_inOrder (h : s.InOrder) (policy : RetryPolicy) (query : DatasetInput)
    {token : Option String} {start : Nat} (read : Archive.startOf token = .ok start) :
    ∃ s', Beside s s' ∧ s'.inner.journal = .list query token :: s.inner.journal ∧
      listingPage (Exchange.metadata exchangePart) policy query token s
        = (.ok (s.archive.pageFrom (s.archive.entriesOf query) start), s') := by
  obtain ⟨s', run, beside⟩ := list_of_inOrder h query token
  have page : s.archive.page query token
      = .ok (s.archive.pageFrom (s.archive.entriesOf query) start) := by
    rw [Archive.page, read]
    rfl
  rw [page] at run
  have entered : ((Exchange.metadata exchangePart).list query token s).2.inner.journal
      = .list query token :: s.inner.journal := rfl
  rw [run] at entered
  exact ⟨s', beside, entered, retryingStep_of_ok policy _ run⟩

/-- **A listing from a token on** holds all entries that are left, in order. -/
theorem exists_traverses (policy : RetryPolicy) (query : DatasetInput) {start n : Nat}
    {token : Option String} (h : s.InOrder)
    (countable : (s.archive.entriesOf query).length ≤ Text.maxUnsigned)
    (read : Archive.startOf token = .ok start)
    (enough : (s.archive.entriesOf query).length ≤ start + (n + 1) * s.archive.pageSize)
    (needed : n = 0 ∨ start + n * s.archive.pageSize < (s.archive.entriesOf query).length) :
    ∃ s' tokens, Beside s s' ∧
      tokens = token :: (List.range n).map (fun i =>
        some (toString (start + (i + 1) * s.archive.pageSize))) ∧
      s'.inner.journal = (tokens.map (.list query)).reverse ++ s.inner.journal ∧
      Traverses (Exchange.metadata exchangePart) policy query token s tokens
        (((s.archive.entriesOf query).drop start).map SourceRecord.ofEntry) s' := by
  induction n generalizing s start token with
  | zero =>
    obtain ⟨s', beside, entered, asked⟩ := listingPage_of_inOrder h policy query read
    have whole : pageRecords query (s.archive.pageFrom (s.archive.entriesOf query) start)
        = ((s.archive.entriesOf query).drop start).map SourceRecord.ofEntry := by
      rw [Archive.pageRecords_pageFrom, List.take_of_length_le]
      rw [List.length_drop]
      omega
    refine ⟨s', [token], beside, rfl, entered, whole ▸ .last asked ?_⟩
    exact if_neg (by omega)
  | succ n ih =>
    obtain ⟨s₁, beside₁, entered, asked⟩ := listingPage_of_inOrder h policy query read
    have same : s₁.archive = s.archive := beside₁.archive
    rw [Nat.succ_mul] at enough needed
    have left : start + s.archive.pageSize + n * s.archive.pageSize
        < (s.archive.entriesOf query).length := by omega
    have more : start + s.archive.pageSize < (s.archive.entriesOf query).length := by omega
    -- the next page begins behind the entries of this one
    have next := Archive.startOf_toString (Nat.le_trans (Nat.le_of_lt more) countable)
    obtain ⟨s₂, tokens, beside₂, asking, entered₂, pages⟩ := ih beside₁.inOrder
      (by rw [same]; exact countable) next (by rw [same]; omega) (by rw [same]; exact .inr left)
    rw [same] at asking pages
    refine ⟨s₂, token :: tokens, beside₁.trans beside₂, ?_, ?_, ?_⟩
    · rw [asking, List.range_succ_eq_map, List.map_cons, List.map_map, Nat.zero_add, Nat.one_mul]
      refine congrArg _ (congrArg _ (List.map_congr_left fun i _ => ?_))
      rw [Function.comp_apply, Nat.succ_mul (i + 1), Nat.add_assoc, Nat.add_comm (_ * _)]
    · rw [entered₂, entered, List.map_cons, List.reverse_cons, List.append_assoc]
      rfl
    · have parts : pageRecords query (s.archive.pageFrom (s.archive.entriesOf query) start) ++
          ((s.archive.entriesOf query).drop (start + s.archive.pageSize)).map SourceRecord.ofEntry
          = ((s.archive.entriesOf query).drop start).map SourceRecord.ofEntry := by
        rw [Archive.pageRecords_pageFrom, ← List.map_append, ← List.drop_drop,
          List.take_append_drop]
      rw [← parts]
      exact .more asked (if_pos more) pages

/-- **The records of some datasets** are what the archive lists for them, one dataset after the
other, and each page is asked for once. -/
theorem exists_streams (policy : RetryPolicy) (queries : List DatasetInput) (h : s.InOrder)
    (countable : ∀ query ∈ queries, (s.archive.entriesOf query).length ≤ Text.maxUnsigned) :
    ∃ s', Beside s s' ∧
      Streams (Exchange.metadata exchangePart) policy queries s
        (queries.flatMap fun query => (s.archive.entriesOf query).map SourceRecord.ofEntry) s' ∧
      (datasetsFeed (Exchange.metadata exchangePart) policy queries).tell s
        = ⟨queries.flatMap fun query => (s.archive.entriesOf query).map SourceRecord.ofEntry,
            s', none⟩ ∧
      s'.inner.journal
        = (queries.flatMap fun query => (s.archive.tokens query).map (.list query)).reverse ++
          s.inner.journal := by
  induction queries generalizing s with
  | nil => exact ⟨s, .refl h, .nil s, rfl, rfl⟩
  | cons query queries ih =>
    have positive := s.archive.pageSize_pos
    have listed := s.archive.length_entriesOf_le query
    obtain ⟨n, number, enough, needed⟩ := s.archive.exists_pages query
    obtain ⟨s₁, tokens, beside₁, asked, entered₁, pages⟩ := exists_traverses policy query h
      (countable query List.mem_cons_self) (show Archive.startOf none = .ok 0 from rfl)
      (by rwa [Nat.zero_add]) (by rwa [Nat.zero_add])
    obtain ⟨s₂, beside₂, streams, told, entered₂⟩ := ih beside₁.inOrder fun query mem => by
      rw [beside₁.archive]
      exact countable query (List.mem_cons_of_mem _ mem)
    have all : tokens = s.archive.tokens query := by
      rw [asked, Archive.tokens, number, Nat.add_sub_cancel]
      simp only [Nat.zero_add]
    have few : tokens.length ≤ s.archive.listed.length + 1 := by
      have : n ≤ n * s.archive.pageSize := Nat.le_mul_of_pos_right n positive
      rw [asked, List.length_cons, List.length_map, List.length_range]
      omega
    rw [beside₁.archive] at streams told entered₂
    refine ⟨s₂, beside₁.trans beside₂, .cons pages streams, ?_, ?_⟩
    · rw [datasetsFeed, Feed.tell, Action.gets_apply, horizon_of_inOrder h]
      simp only
      rw [pages.tell _ few, told]
      rfl
    · rw [entered₂, entered₁, all, List.flatMap_cons, List.reverse_append, List.append_assoc]

/-- **The records of a task that lists datasets** are what the archive lists for them. -/
theorem tell_datasetRevisions (policy : RetryPolicy) {task : Task} {queries : List DatasetInput}
    (input : task.input = .datasets queries) (h : s.InOrder)
    (countable : ∀ query ∈ queries, (s.archive.entriesOf query).length ≤ Text.maxUnsigned) :
    ∃ s', Beside s s' ∧ (datasetRevisions (Exchange.metadata exchangePart) policy task).tell s
      = ⟨queries.flatMap fun query => (s.archive.entriesOf query).map SourceRecord.ofEntry,
          s', none⟩ := by
  obtain ⟨s', beside, -, told, -⟩ := exists_streams policy queries h countable
  rw [datasetRevisions, input]
  exact ⟨s', beside, told⟩

end RehearsalServices

end Conveyor
