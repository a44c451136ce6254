import Conveyor.Proofs.Services.Address

/-!
# The ledger of an archive

An archive keeps each version in three places: among its versions, its files and, if it belongs to
a dataset and a revision, what it lists.  A ledger of what was stored accounts for all three, as
long as no address is given twice.

* `NewVersion.GoesUnder` — versions that are listed under a query.
* **`Archive.entriesOf_create`** — what a listing shows once a version is stored.
* `Stored` — a version in the ledger; `Ledger` says how an archive and its ledger agree.
* **`Ledger.create`** — a version under a name that stands out is entered behind all others.
* `Ledger.entriesOf_eq`, `Ledger.read_eq`, `Ledger.fileAddress_eq` — the three ways to find it.
-/

namespace Conveyor

/-! ## Listings -/

/-- Whether a version is listed under a query. -/
def NewVersion.GoesUnder (query : DatasetInput) (v : NewVersion) : Prop :=
  v.provider = query.provider ∧ v.dataset = some query.dataset ∧
    v.representation = query.representation ∧
    v.revision.map Revision.name = some query.revision.name

instance (query : DatasetInput) (v : NewVersion) : Decidable (v.GoesUnder query) := by
  unfold NewVersion.GoesUnder
  infer_instance

/-- **A version that is stored** is shown by the listings that it goes under, behind all others. -/
theorem Archive.entriesOf_create (a : Archive) (ids : IdSource) (v : NewVersion)
    (query : DatasetInput) :
    (create v (a, ids)).2.1.entriesOf query = a.entriesOf query ++
      if v.GoesUnder query then
        [⟨v.cloudId, v.representation, ids.next, a.addressOf v ids.next, false⟩]
      else [] := by
  simp only [entriesOf, create, List.filter_append, List.map_append]
  congr 1
  cases dataset : v.dataset with
  | none => simp [NewVersion.GoesUnder, dataset]
  | some d =>
    cases revision : v.revision with
    | none => simp [NewVersion.GoesUnder, revision]
    | some r =>
      by_cases under : v.GoesUnder query
      · obtain ⟨provider, inDataset, representation, name⟩ := under
        rw [if_pos ⟨provider, inDataset, representation, name⟩]
        simp_all
      · rw [if_neg under]
        simp only [NewVersion.GoesUnder, dataset, revision, Option.map_some,
          Option.some.injEq] at under
        simp only [List.map_eq_nil_iff, List.filter_eq_nil_iff, List.mem_singleton,
          Bool.and_eq_true, decide_eq_true_eq]
        rintro l rfl ⟨⟨⟨provider, inDataset⟩, name⟩, representation⟩
        exact under ⟨provider, inDataset, representation, name⟩

/-! ## Ledgers -/

/-- A stored version, with its name and the address of its file. -/
structure Stored where
  version : NewVersion
  name : String
  url : String
deriving DecidableEq

namespace Stored

/-- What a listing shows of a version. -/
def entry? (query : DatasetInput) (w : Stored) : Option RevisionEntry :=
  if w.version.GoesUnder query then
    some ⟨w.version.cloudId, w.version.representation, w.name, w.url, false⟩
  else none

def kept (w : Stored) : StoredVersion :=
  ⟨⟨w.version.cloudId, w.version.representation, w.name, w.version.provider,
    [w.version.fileName], true⟩, w.url⟩

end Stored

/-- How an archive agrees with a ledger, whose versions were named by a supply of names. -/
structure Ledger (a : Archive) (ids : IdSource) (log : List Stored) : Prop where
  listed : ∀ query, a.entriesOf query = log.filterMap (Stored.entry? query)
  versions : a.versions = log.map Stored.kept
  files : ∀ w ∈ log, a.files.get? w.url = some w.version.content
  addresses : ∀ w ∈ log, w.url = a.addressOf w.version w.name
  drawn : ∀ w ∈ log, ∃ k < ids.drawn, w.name = ids.name k
  distinct : (log.map Stored.name).Nodup

namespace Ledger

variable {a : Archive} {ids : IdSource} {log : List Stored}

theorem new (base : String) (pageSize : Nat) (ids : IdSource) :
    Ledger (.new base pageSize) ids [] where
  listed _ := rfl
  versions := rfl
  files := by simp
  addresses := by simp
  drawn := by simp
  distinct := .nil

/-- Names that are drawn for something else do not matter. -/
theorem later (h : Ledger a ids log) {ids' : IdSource} (same : ids'.name = ids.name)
    (le : ids.drawn ≤ ids'.drawn) : Ledger a ids' log where
  listed := h.listed
  versions := h.versions
  files := h.files
  addresses := h.addresses
  drawn w mem := by
    obtain ⟨k, before, name⟩ := h.drawn w mem
    exact ⟨k, Nat.lt_of_lt_of_le before le, name.trans (congrFun same.symm k)⟩
  distinct := h.distinct

/-- **A version under a name that stands out** is entered behind all others. -/
theorem create (h : Ledger a ids log) (injective : Function.Injective ids.name) (v : NewVersion)
    (telling : ∀ k,
      Telltale (ids.name k) [a.base, v.cloudId, v.representation, v.fileName]) :
    Ledger (Archive.create v (a, ids)).2.1 ids.draw
      (log ++ [⟨v, ids.next, a.addressOf v ids.next⟩]) := by
  have fresh : ∀ w ∈ log, w.name ≠ ids.next := by
    intro w mem same
    obtain ⟨k, before, name⟩ := h.drawn w mem
    exact absurd (injective (name.symm.trans same)) (Nat.ne_of_lt before)
  -- the new address would tell the name of the other version
  have apart : ∀ w ∈ log, a.addressOf v ids.next ≠ w.url := by
    intro w mem same
    obtain ⟨k, -, name⟩ := h.drawn w mem
    have telling' := telling k
    rw [← name] at telling'
    rw [h.addresses w mem] at same
    exact fresh w mem
      (Locator.version_eq_of_render_eq same.symm telling' (telling ids.drawn).slashless)
  refine ⟨fun query => ?_, ?_, ?_, ?_, ?_, ?_⟩
  · rw [Archive.entriesOf_create, h.listed, List.filterMap_append]
    refine congrArg (log.filterMap (Stored.entry? query) ++ ·) ?_
    by_cases under : v.GoesUnder query <;> simp [Stored.entry?, under]
  · have versions : (Archive.create v (a, ids)).2.1.versions
        = a.versions ++ [Stored.kept ⟨v, ids.next, a.addressOf v ids.next⟩] := rfl
    rw [versions, h.versions, List.map_append, List.map_singleton]
  · intro w mem
    have files : (Archive.create v (a, ids)).2.1.files
        = a.files.insert (a.addressOf v ids.next) v.content := rfl
    rw [files, Dict.get?_insert]
    rcases List.mem_append.1 mem with before | new
    · rw [if_neg (apart w before), h.files w before]
    · cases List.mem_singleton.1 new
      exact if_pos rfl
  · intro w mem
    rcases List.mem_append.1 mem with before | new
    · exact h.addresses w before
    · cases List.mem_singleton.1 new
      rfl
  · intro w mem
    rcases List.mem_append.1 mem with before | new
    · obtain ⟨k, lt, name⟩ := h.drawn w before
      exact ⟨k, Nat.lt_succ_of_lt lt, name⟩
    · cases List.mem_singleton.1 new
      exact ⟨ids.drawn, Nat.lt_succ_self _, rfl⟩
  · rw [List.map_append, List.nodup_append]
    refine ⟨h.distinct, List.nodup_cons.2 ⟨List.not_mem_nil, .nil⟩, ?_⟩
    intro name mem other new same
    obtain ⟨w, before, rfl⟩ := List.mem_map.1 mem
    rw [List.map_singleton, List.mem_singleton] at new
    exact fresh w before (same.trans new)

/-! ## Finding a version -/

section

variable (h : Ledger a ids log) {w : Stored} (mem : w ∈ log)

include h mem

theorem read_eq : a.read w.url = .ok w.version.content := by
  rw [Archive.read, h.files w mem]

/-- **The address of a version's file** is found by its record, representation and name. -/
theorem fileAddress_eq :
    a.fileAddress w.version.cloudId w.version.representation w.name w.version.fileName
      = .ok w.url := by
  have found : a.version? w.version.cloudId w.version.representation w.name = some w.kept := by
    rw [Archive.version?, h.versions]
    obtain ⟨before, after, log_eq⟩ := List.append_of_mem mem
    have distinct := h.distinct
    rw [log_eq, List.map_append, List.map_cons, List.nodup_append] at distinct
    rw [log_eq, List.map_append, List.map_cons, List.find?_append, Option.or_eq_some_iff]
    refine .inr ⟨List.find?_eq_none.2 fun other among => ?_, List.find?_cons_of_pos ?_⟩
    · obtain ⟨w', mem', rfl⟩ := List.mem_map.1 among
      have apart := distinct.2.2 w'.name (List.mem_map_of_mem mem') w.name List.mem_cons_self
      simp [Stored.kept, apart]
    · simp [Stored.kept]
  have file : w.version.fileName ∈ w.kept.representation.files := List.mem_cons_self
  rw [Archive.fileAddress, found, Option.filter_some, if_pos (decide_eq_true file)]
  rfl

end

end Ledger

end Conveyor
