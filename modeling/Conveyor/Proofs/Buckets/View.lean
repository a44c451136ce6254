import Conveyor.Buckets.Table
import Conveyor.Proofs.Buckets.Racing
import Conveyor.Proofs.Faults

/-!
# Bucket stores, seen by their objects

Whatever a bucket store is made of, it can be seen as a shelf of buckets for each object, and every
call that changes it changes one shelf: a new bucket stands at its end, or a row is added to one of
its buckets.  A call that fails changes nothing that is seen.

* `BucketView` — how a store is seen, and `BucketView.Lawful`, that its calls do what they say.
* `lawful_memory`, `lawful_table`, `BucketView.Lawful.faulty` — the stores in memory and in a table,
  and either of them with failures in store.
* `Stocked` — shelves whose buckets bear names of their own that were drawn.
* **`addRow_ends`** — what counting a row does to the shelves.
-/

namespace Conveyor

/-- How a bucket store is seen. -/
structure BucketView (B : Type) where
  /-- The buckets of an object, the oldest first. -/
  shelf : B → String → List Bucket
  /-- That a store is such that its calls have no effect if they fail. -/
  sane : B → Prop
  /-- That no call of a store fails. -/
  sure : B → Prop

namespace BucketView

variable {B : Type}

/-- A store becomes one that is seen as some shelves, and is no worse than it was. -/
structure Becomes (v : BucketView B) (s : B) (shelf : String → List Bucket) (s' : B) : Prop where
  shelf : v.shelf s' = shelf
  sane : v.sane s'
  sure : v.sure s → v.sure s'

/-- A call of a store fails and changes nothing that is seen. -/
structure Fails (v : BucketView B) (s s' : B) : Prop where
  unsure : ¬ v.sure s
  same : v.Becomes s (v.shelf s) s'

section

variable {v : BucketView B} {s s' s'' : B} {shelf shelf' : String → List Bucket}

theorem Becomes.trans (first : v.Becomes s shelf s') (second : v.Becomes s' shelf' s'') :
    v.Becomes s shelf' s'' :=
  ⟨second.shelf, second.sane, second.sure ∘ first.sure⟩

theorem Becomes.fails (same : v.Becomes s (v.shelf s) s') (fails : v.Fails s' s'') :
    v.Fails s s'' :=
  ⟨fails.unsure ∘ same.sure, same.shelf ▸ same.trans fails.same⟩

end

/-- The calls of a store look at the shelf of one object, and change that of one object. -/
structure Lawful [BucketStore B] (v : BucketView B) : Prop where
  current : ∀ object s, v.sane s →
    (BucketStore.current object : Action B StoreError (Option Bucket)).Ends
      (fun found s' => found = (v.shelf s object).getLast? ∧ v.Becomes s (v.shelf s) s')
      (fun _ => v.Fails s) s
  bucketsOf : ∀ object s, v.sane s →
    (BucketStore.bucketsOf object : Action B StoreError (List Bucket)).Ends
      (fun found s' => found = v.shelf s object ∧ v.Becomes s (v.shelf s) s')
      (fun _ => v.Fails s) s
  allocate : ∀ object s (ids : IdSource), v.sane s →
    (BucketStore.allocate object : Action (B × IdSource) StoreError Bucket).Ends
      (fun bucket s' => bucket = ⟨object, ids.next, 0⟩ ∧ s'.2 = ids.draw ∧
        v.Becomes s (Function.update (v.shelf s) object (v.shelf s object ++ [bucket])) s'.1)
      (fun _ s' => s'.2 = ids ∧ v.Fails s s'.1) (s, ids)
  increment : ∀ object bucketId s, v.sane s →
    bucketId ∈ (v.shelf s object).map Bucket.bucketId →
    (BucketStore.increment object bucketId 1 : Action B StoreError Unit).Ends
      (fun _ s' => v.Becomes s (Function.update (v.shelf s) object
        (MemoryBuckets.counted bucketId (v.shelf s object))) s')
      (fun _ => v.Fails s) s

end BucketView

/-! ## Shelves of rows -/

section

variable {ρ : Type} (object : ρ → String) (bucket : ρ → Bucket)

/-- The shelves of buckets that are kept as rows, all in one list. -/
def shelves (rows : List ρ) (wanted : String) : List Bucket :=
  (rows.filter fun row => object row = wanted).map bucket

variable {object bucket}

/-- A new row stands at the end of its object's shelf. -/
theorem shelves_append (rows : List ρ) (row : ρ) :
    shelves object bucket (rows ++ [row])
      = Function.update (shelves object bucket rows) (object row)
          (shelves object bucket rows (object row) ++ [bucket row]) := by
  funext other
  by_cases same : other = object row
  · subst same
    rw [Function.update_self]
    simp [shelves]
  · rw [Function.update_of_ne same]
    simp [shelves, Ne.symm same]

/-- A change that adds a row to the buckets of a name on one shelf. -/
theorem shelves_map {rows : List ρ} {change : ρ → ρ} (wanted bucketId : String)
    (stays : ∀ row ∈ rows, object (change row) = object row)
    (counts : ∀ row ∈ rows, object row = wanted → bucket (change row)
      = if (bucket row).bucketId = bucketId then
          { bucket row with rows := (bucket row).rows + 1 } else bucket row)
    (spares : ∀ row ∈ rows, object row ≠ wanted → bucket (change row) = bucket row) :
    shelves object bucket (rows.map change)
      = Function.update (shelves object bucket rows) wanted
          (MemoryBuckets.counted bucketId (shelves object bucket rows wanted)) := by
  funext other
  have moved : shelves object bucket (rows.map change) other
      = (rows.filter fun row => object row = other).map (bucket ∘ change) := by
    rw [shelves, List.filter_map, List.map_map]
    refine congrArg (List.map _) (List.filter_congr fun row mem => ?_)
    rw [Function.comp_apply, stays row mem]
  rw [moved]
  by_cases same : other = wanted
  · subst same
    rw [Function.update_self, MemoryBuckets.counted, shelves, List.map_map]
    refine List.map_congr_left fun row mem => ?_
    obtain ⟨mem, own⟩ := List.mem_filter.1 mem
    exact counts row mem (of_decide_eq_true own)
  · rw [Function.update_of_ne same, shelves]
    refine List.map_congr_left fun row mem => ?_
    obtain ⟨mem, own⟩ := List.mem_filter.1 mem
    exact spares row mem (of_decide_eq_true own ▸ same)

end

/-! ## The stores -/

/-- A store in memory, no call of which fails. -/
def MemoryBuckets.view : BucketView MemoryBuckets where
  shelf s := shelves Bucket.objectId id s.buckets
  sane _ := True
  sure _ := True

theorem MemoryBuckets.view_shelf (object : String) (s : MemoryBuckets) :
    view.shelf s object = s.bucketsOf object := List.map_id _

theorem lawful_memory : MemoryBuckets.view.Lawful where
  current object s _ :=
    ⟨by rw [MemoryBuckets.view_shelf], rfl, trivial, id⟩
  bucketsOf object s _ :=
    ⟨by rw [MemoryBuckets.view_shelf], rfl, trivial, id⟩
  allocate object s ids _ := ⟨rfl, rfl, shelves_append s.buckets ⟨object, ids.next, 0⟩, trivial, id⟩
  increment object bucketId s _ mem := by
    obtain ⟨bucket, there, rfl⟩ := List.mem_map.1 mem
    rw [MemoryBuckets.view_shelf] at there
    obtain ⟨there, own⟩ := List.mem_filter.1 there
    have any : (s.buckets.any fun b => b.objectId = object && b.bucketId = bucket.bucketId)
        = true := List.any_eq_true.2 ⟨bucket, there, by simpa using own⟩
    refine Action.ends_of_ok (if_pos any) ⟨?_, trivial, id⟩
    refine shelves_map object bucket.bucketId (fun row _ => ?_) (fun row _ meant => ?_)
      fun row _ apart => ?_
    · split <;> rfl
    · simp [meant]
    · simp [apart]

/-- A store in a table, no call of which fails while the database is not shut down. -/
def TableBuckets.view : BucketView TableBuckets where
  shelf t := shelves BucketRow.objectId BucketRow.bucket t.rows
  sane t := t.closed = false ∧ ∀ row ∈ t.rows, 0 ≤ row.rows
  sure _ := True

namespace TableBuckets

variable {α : Type} {t : TableBuckets}

theorem sane_empty : view.sane Table.empty := ⟨rfl, nofun⟩

theorem ends_statement (sane : view.sane t) (f : List BucketRow → α × List BucketRow)
    {shelf : String → List Bucket}
    (shelved : shelves BucketRow.objectId BucketRow.bucket (f t.rows).2 = shelf)
    (kept : ∀ row ∈ (f t.rows).2, 0 ≤ row.rows) :
    (Table.statement f).Ends (fun a t' => a = (f t.rows).1 ∧ view.Becomes t shelf t')
      (fun _ => view.Fails t) t :=
  Action.ends_of_ok (Table.statement_of_open sane.1 f) ⟨rfl, shelved, ⟨sane.1, kept⟩, id⟩

theorem ends_bucketsOf (object : String) (sane : view.sane t) :
    (bucketsOf object).Ends (fun found t' => found = view.shelf t object ∧
      view.Becomes t (view.shelf t) t') (fun _ => view.Fails t) t := by
  refine (ends_statement sane (fun rows => (rows.filter fun row => row.objectId = object, rows))
    rfl sane.2).bind ?_
  rintro _ t' ⟨rfl, becomes⟩
  exact ⟨rfl, becomes⟩

end TableBuckets

theorem lawful_table : TableBuckets.view.Lawful where
  current object t sane := by
    refine (TableBuckets.ends_bucketsOf object sane).bind ?_
    rintro _ t' ⟨rfl, becomes⟩
    exact ⟨rfl, becomes⟩
  bucketsOf object t sane := TableBuckets.ends_bucketsOf object sane
  allocate object t ids sane := by
    have kept : ∀ row ∈ t.rows ++ [(⟨object, ids.next, 0⟩ : BucketRow)], 0 ≤ row.rows := by
      intro row mem
      rcases List.mem_append.1 mem with mem | mem
      · exact sane.2 row mem
      · obtain rfl := List.mem_singleton.1 mem
        exact Int.le_refl 0
    have appended := TableBuckets.ends_statement sane
      (fun rows => ((), rows ++ [(⟨object, ids.next, 0⟩ : BucketRow)]))
      (shelves_append t.rows ⟨object, ids.next, 0⟩) kept
    show (TableBuckets.allocate object).Ends _ _ _
    rw [TableBuckets.allocate]
    refine Action.Ends.after (a := ids.next) rfl (appended.on_fst.bind ?_)
    rintro _ ⟨t', _⟩ ⟨rfl, -, becomes⟩
    exact ⟨rfl, rfl, becomes⟩
  increment object bucketId t sane mem := by
    have one : BucketRow.signed 1 = 1 := by decide
    have some : t.rows.countP (fun row => row.objectId = object && row.bucketId = bucketId)
        ≠ 0 := by
      obtain ⟨bucket, shelved, rfl⟩ := List.mem_map.1 mem
      obtain ⟨row, there, rfl⟩ := List.mem_map.1 shelved
      obtain ⟨there, own⟩ := List.mem_filter.1 there
      refine Nat.pos_iff_ne_zero.1 (List.countP_pos_iff.2 ⟨row, there, ?_⟩)
      simpa [BucketRow.bucket] using own
    have kept : ∀ row ∈ t.rows.map (fun row : BucketRow =>
        if row.objectId = object && row.bucketId = bucketId then
          { row with rows := row.rows + BucketRow.signed 1 } else row), 0 ≤ row.rows := by
      intro row mem
      obtain ⟨old, there, rfl⟩ := List.mem_map.1 mem
      have positive := sane.2 old there
      split
      · simp only [one]
        omega
      · exact positive
    refine Action.Ends.bind (TableBuckets.ends_statement sane _ (shelves_map object bucketId
      (fun row _ => ?_) (fun row mem meant => ?_) fun row _ apart => ?_) kept) ?_
    · split <;> rfl
    · have positive := sane.2 row mem
      by_cases same : row.bucketId = bucketId
      · simp [meant, same, one, BucketRow.bucket, Int.toNat_add positive]
      · simp [same, BucketRow.bucket]
    · simp [apart]
    · rintro n t' ⟨rfl, becomes⟩
      simp only
      rw [if_neg some]
      exact becomes

namespace BucketView

/-- A store that fails as planned is seen as it would be without a plan. -/
def faulty {B : Type} (v : BucketView B) : BucketView (Faulty BucketOp StoreError B) where
  shelf f := v.shelf f.store
  sane f := v.sane f.store ∧ ∀ op, f.Harmless op
  sure f := v.sure f.store ∧ ∀ op, f.Smooth op

section

variable {B : Type} {v : BucketView B} {f f' : Faulty BucketOp StoreError B} {op : BucketOp}

theorem Becomes.faulty {shelf : String → List Bucket} (sane : v.faulty.sane f)
    (becomes : v.Becomes f.store shelf f'.store) (plan : f'.plan = f.spent op) :
    v.faulty.Becomes f shelf f' :=
  have within := Faulty.within_of_spent plan
  ⟨becomes.shelf, ⟨becomes.sane, fun other => (sane.2 other).within within⟩,
    fun sure => ⟨becomes.sure sure.1, fun other => (sure.2 other).within within⟩⟩

theorem Fails.faulty (sane : v.faulty.sane f) (err : StoreError) (plan : f'.plan = f.spent op)
    (fails : v.Fails f.store f'.store ∨
      f'.store = f.store ∧ (f.plan op).head? = some (some ⟨err, false⟩)) :
    v.faulty.Fails f f' := by
  rcases fails with fails | ⟨same, planned⟩
  · exact ⟨fun sure => fails.unsure sure.1, fails.same.faulty sane plan⟩
  · refine ⟨fun sure => sure.2 op _ (List.mem_of_head? planned), Becomes.faulty sane ?_ plan⟩
    rw [same]
    exact ⟨rfl, sane.1, id⟩

/-- A call of a store that fails as planned. -/
theorem ends_call {α : Type} {answered : α → Prop} {shelf : String → List Bucket}
    {action : Action B StoreError α} (sane : v.faulty.sane f)
    (h : action.Ends (fun a s' => answered a ∧ v.Becomes f.store shelf s')
      (fun _ => v.Fails f.store) f.store) :
    (Faulty.call op action).Ends (fun a f' => answered a ∧ v.faulty.Becomes f shelf f')
      (fun _ => v.faulty.Fails f) f := by
  refine (Faulty.ends_call_of_harmless (sane.2 op) h).mono ?_ fun err f' ⟨plan, fails⟩ =>
    .faulty sane err plan fails
  rintro a f' ⟨⟨answer, becomes⟩, plan, -⟩
  exact ⟨answer, becomes.faulty sane plan⟩

/-- **A store that fails as planned** is as good as the store is. -/
theorem Lawful.faulty [BucketStore B] (lawful : v.Lawful) : v.faulty.Lawful where
  current object f sane := ends_call sane (lawful.current object f.store sane.1)
  bucketsOf object f sane := ends_call sane (lawful.bucketsOf object f.store sane.1)
  allocate object f ids sane := by
    have alone := lawful.allocate object f.store ids sane.1
    have harmless : (besideIds.get (f, ids)).Harmless .allocate := sane.2 .allocate
    have planned := Faulty.ends_call_of_harmless harmless alone
    refine Action.Ends.on (planned.mono ?_ ?_)
    · rintro bucket f' ⟨⟨rfl, drawn, becomes⟩, plan, -⟩
      exact ⟨rfl, drawn, Becomes.faulty sane becomes plan⟩
    · rintro err ⟨⟨store, ids'⟩, _⟩ ⟨plan, ⟨undrawn, fails⟩ | ⟨same, head⟩⟩
      · exact ⟨undrawn, .faulty sane err plan (.inl fails)⟩
      · cases same
        exact ⟨rfl, .faulty sane err plan (.inr ⟨rfl, head⟩)⟩
  increment object bucketId f sane mem := by
    have alone := lawful.increment object bucketId f.store sane.1 mem
    have answered : (BucketStore.increment object bucketId 1).Ends
        (fun answer s' => answer = () ∧ v.Becomes f.store _ s') (fun _ => v.Fails f.store)
        f.store :=
      alone.mono (fun _ _ becomes => ⟨rfl, becomes⟩) fun _ _ => id
    exact (ends_call sane answered).mono (fun _ _ becomes => becomes.2) fun _ _ => id

end

end BucketView

/-! ## Counting a row -/

/-- The buckets of every object bear names of their own, all of which were drawn. -/
structure Stocked (shelf : String → List Bucket) (ids : IdSource) : Prop where
  injective : Function.Injective ids.name
  drawn : ∀ object, ∀ b ∈ shelf object, ∃ i < ids.drawn, b.bucketId = ids.name i
  distinct : ∀ object, ((shelf object).map Bucket.bucketId).Nodup

namespace Stocked

variable {shelf : String → List Bucket} {ids : IdSource} {object : String}

/-- Nothing is on the shelves yet. -/
theorem of_nil (injective : Function.Injective ids.name) (none : ∀ object, shelf object = []) :
    Stocked shelf ids where
  injective := injective
  drawn object b mem := by
    rw [none] at mem
    cases mem
  distinct object := by
    rw [none]
    exact List.nodup_nil

/-- Names may be drawn for other things. -/
theorem later (ids' : IdSource) (h : Stocked shelf ids) (name : ids'.name = ids.name)
    (drawn : ids.drawn ≤ ids'.drawn) : Stocked shelf ids' where
  injective := name ▸ h.injective
  drawn object b mem := by
    obtain ⟨i, lt, own⟩ := h.drawn object b mem
    exact ⟨i, Nat.lt_of_lt_of_le lt drawn, name ▸ own⟩
  distinct := h.distinct

theorem next_notMem (h : Stocked shelf ids) :
    ids.next ∉ (shelf object).map Bucket.bucketId := by
  intro mem
  obtain ⟨b, there, same⟩ := List.mem_map.1 mem
  obtain ⟨i, lt, drawn⟩ := h.drawn object b there
  have := h.injective (drawn.symm.trans same)
  omega

/-- A new bucket under the next name. -/
theorem push (h : Stocked shelf ids) :
    Stocked (Function.update shelf object (shelf object ++ [⟨object, ids.next, 0⟩])) ids.draw where
  injective := h.injective
  drawn := by
    intro other b mem
    have earlier : ∀ b ∈ shelf other, ∃ i < ids.draw.drawn, b.bucketId = ids.draw.name i :=
      (later ids.draw h rfl (Nat.le_succ _)).drawn other
    by_cases same : other = object
    · subst same
      rw [Function.update_self] at mem
      rcases List.mem_append.1 mem with mem | mem
      · exact earlier b mem
      · obtain rfl := List.mem_singleton.1 mem
        exact ⟨ids.drawn, Nat.lt_succ_self _, rfl⟩
    · rw [Function.update_of_ne same] at mem
      exact earlier b mem
  distinct := by
    intro other
    by_cases same : other = object
    · subst same
      rw [Function.update_self, List.map_append, List.map_singleton]
      exact List.nodup_append.2 ⟨h.distinct other, List.nodup_singleton _,
        fun _ old _ new eq => h.next_notMem (List.mem_singleton.1 new ▸ eq ▸ old)⟩
    · rw [Function.update_of_ne same]
      exact h.distinct other

/-- A shelf whose buckets keep their names. -/
theorem update (h : Stocked shelf ids) (buckets : List Bucket)
    (names : buckets.map Bucket.bucketId = (shelf object).map Bucket.bucketId) :
    Stocked (Function.update shelf object buckets) ids where
  injective := h.injective
  drawn := by
    intro other b mem
    by_cases same : other = object
    · subst same
      rw [Function.update_self] at mem
      obtain ⟨old, there, eq⟩ := List.mem_map.1 (names ▸ List.mem_map_of_mem mem)
      obtain ⟨i, lt, drawn⟩ := h.drawn other old there
      exact ⟨i, lt, eq.symm.trans drawn⟩
    · rw [Function.update_of_ne same] at mem
      exact h.drawn other b mem
  distinct := by
    intro other
    by_cases same : other = object
    · subst same
      rw [Function.update_self, names]
      exact h.distinct other
    · rw [Function.update_of_ne same]
      exact h.distinct other

end Stocked

theorem MemoryBuckets.counted_concat {full : List Bucket} {last : Bucket}
    (distinct : ((full ++ [last]).map Bucket.bucketId).Nodup) :
    counted last.bucketId (full ++ [last]) = full ++ [{ last with rows := last.rows + 1 }] := by
  rw [List.map_append, List.nodup_append] at distinct
  have others : counted last.bucketId full = full := by
    refine (List.map_congr_left fun b mem => if_neg fun same => ?_).trans (List.map_id _)
    exact distinct.2.2 _ (List.mem_map_of_mem mem) _ (List.mem_singleton_self _) same
  rw [counted, List.map_append, ← counted, others, List.map_singleton, if_pos rfl]

namespace BucketedCounter

/-- The shelf of an object with room for a row: a fresh bucket stands at its end unless the
youngest is not full. -/
def opened (c : BucketedCounter) (fresh : Bucket) (buckets : List Bucket) : List Bucket :=
  if buckets.getLast?.any (·.rows < c.capacity) then buckets else buckets ++ [fresh]

variable {B : Type} [BucketStore B] {v : BucketView B} {c : BucketedCounter} {object : String}
  {s : B} {ids : IdSource}

/-- A bucket is chosen for a row: it stands last on the shelf with room for the row. -/
structure Chosen (v : BucketView B) (c : BucketedCounter) (object : String) (s : B) (ids : IdSource)
    (b : Bucket) (s' : B × IdSource) : Prop where
  last : (c.opened ⟨object, ids.next, 0⟩ (v.shelf s object)).getLast? = some b
  becomes : v.Becomes s (Function.update (v.shelf s) object
    (c.opened ⟨object, ids.next, 0⟩ (v.shelf s object))) s'.1
  stocked : Stocked (v.shelf s'.1) s'.2

theorem choose_ends (lawful : v.Lawful) (c : BucketedCounter) (object : String)
    (sane : v.sane s) (stocked : Stocked (v.shelf s) ids) :
    (c.choose object).Ends (Chosen v c object s ids) (fun _ s' => s'.2 = ids ∧ v.Fails s s'.1)
      (s, ids) := by
  refine (lawful.current object s sane).on_fst.bind ?_
  rintro found ⟨s', ids'⟩ ⟨rfl, rfl, same⟩
  have allocated (full : (v.shelf s object).getLast?.any (·.rows < c.capacity) = false) :
      (BucketStore.allocate object).Ends (Chosen v c object s ids')
        (fun _ s' => s'.2 = ids' ∧ v.Fails s s'.1) (s', ids') := by
    have alone := lawful.allocate object s' ids' same.sane
    rw [same.shelf] at alone
    have unroomy : c.opened ⟨object, ids'.next, 0⟩ (v.shelf s object) = _ :=
      if_neg (by rw [full]; decide)
    refine alone.mono ?_ fun _ _ ⟨undrawn, fails⟩ => ⟨undrawn, same.fails fails⟩
    rintro b ⟨s'', ids''⟩ ⟨rfl, rfl, becomes⟩
    refine ⟨by rw [unroomy, List.getLast?_concat], ?_, ?_⟩
    · rw [unroomy]
      exact same.trans becomes
    · rw [becomes.shelf]
      exact stocked.push
  cases youngest : (v.shelf s object).getLast? with
  | none => exact allocated (by rw [youngest]; rfl)
  | some b =>
    simp only
    split
    · rename_i room
      have roomy : c.opened ⟨object, ids'.next, 0⟩ (v.shelf s object) = v.shelf s object :=
        if_pos (by simpa [youngest] using room)
      refine Action.ends_of_ok rfl ⟨by rw [roomy, youngest], ?_, same.shelf ▸ stocked⟩
      rw [roomy, Function.update_eq_self]
      exact same
    · rename_i full
      exact allocated (by simpa [youngest] using full)

/-- A row is counted: the bucket for it takes one row more. -/
structure Added (v : BucketView B) (c : BucketedCounter) (object : String) (s : B) (ids : IdSource)
    (b : Bucket) (s' : B × IdSource) : Prop where
  becomes : ∃ full last, c.opened ⟨object, ids.next, 0⟩ (v.shelf s object) = full ++ [last] ∧
    b = { last with rows := last.rows + 1 } ∧
    v.Becomes s (Function.update (v.shelf s) object (full ++ [b])) s'.1
  stocked : Stocked (v.shelf s'.1) s'.2

/-- A row is not counted: at most there is room for it now. -/
structure Uncounted (v : BucketView B) (c : BucketedCounter) (object : String) (s : B)
    (ids : IdSource) (s' : B × IdSource) : Prop where
  unsure : ¬ v.sure s
  becomes : ∃ buckets,
    (buckets = v.shelf s object ∨ buckets = c.opened ⟨object, ids.next, 0⟩ (v.shelf s object)) ∧
    v.Becomes s (Function.update (v.shelf s) object buckets) s'.1
  stocked : Stocked (v.shelf s'.1) s'.2

section

variable {fresh b : Bucket} {buckets : List Bucket} {s' : B × IdSource}

/-- Room for a row is no row. -/
theorem sum_opened (empty : fresh.rows = 0) :
    ((c.opened fresh buckets).map Bucket.rows).sum = (buckets.map Bucket.rows).sum := by
  rw [opened]
  split
  · rfl
  · rw [List.map_append, List.sum_append, List.map_singleton, List.sum_singleton, empty,
      Nat.add_zero]

omit [BucketStore B]

/-- A row that is counted is one more row of its object. -/
theorem Added.sum_eq (h : Added v c object s ids b s') (other : String) :
    ((v.shelf s'.1 other).map Bucket.rows).sum
      = ((v.shelf s other).map Bucket.rows).sum + [object].count other := by
  obtain ⟨full, last, opened, rfl, becomes⟩ := h.becomes
  rw [becomes.shelf]
  by_cases same : other = object
  · subst same
    have before : ((c.opened ⟨other, ids.next, 0⟩ (v.shelf s other)).map Bucket.rows).sum
        = ((v.shelf s other).map Bucket.rows).sum := sum_opened rfl
    rw [opened] at before
    rw [Function.update_self, List.count_singleton_self, ← before]
    simp [Nat.add_assoc]
  · have none : [object].count other = 0 := List.count_eq_zero_of_not_mem (by simpa using same)
    rw [Function.update_of_ne same, none, Nat.add_zero]

theorem Uncounted.sum_eq (h : Uncounted v c object s ids s') (other : String) :
    ((v.shelf s'.1 other).map Bucket.rows).sum = ((v.shelf s other).map Bucket.rows).sum := by
  obtain ⟨buckets, same, becomes⟩ := h.becomes
  rw [becomes.shelf]
  by_cases here : other = object
  · subst here
    rw [Function.update_self]
    rcases same with rfl | rfl
    · rfl
    · exact sum_opened rfl
  · rw [Function.update_of_ne here]

end

/-- **Counting a row** adds it to the bucket that stands last on the shelf with room for it, or it
fails and no row is counted. -/
theorem addRow_ends (lawful : v.Lawful) (c : BucketedCounter) (object : String) (sane : v.sane s)
    (stocked : Stocked (v.shelf s) ids) :
    (c.addRow object).Ends (Added v c object s ids) (fun _ => Uncounted v c object s ids)
      (s, ids) := by
  have chosen := choose_ends lawful c object sane stocked
  refine (chosen.mono (fun _ _ => id) ?_).bind ?_
  · rintro _ ⟨s', _⟩ ⟨rfl, fails⟩
    refine ⟨fails.unsure, ⟨_, .inl rfl, ?_⟩, ?_⟩
    · rw [Function.update_eq_self]
      exact fails.same
    · rw [fails.same.shelf]
      exact stocked
  rintro last ⟨s', ids'⟩ chosen
  obtain ⟨full, opened⟩ := List.getLast?_eq_some_iff.1 chosen.last
  have shelf : v.shelf s' = Function.update (v.shelf s) object (full ++ [last]) :=
    opened ▸ chosen.becomes.shelf
  have here : v.shelf s' object = full ++ [last] := by rw [shelf, Function.update_self]
  have counts := lawful.increment object last.bucketId s' chosen.becomes.sane
    (by rw [here]; simp)
  have distinct := here ▸ chosen.stocked.distinct object
  rw [here, MemoryBuckets.counted_concat distinct, shelf, Function.update_idem] at counts
  refine (counts.on_fst.mono (fun _ _ => id) ?_).bind ?_
  · rintro _ ⟨s'', _⟩ ⟨rfl, fails⟩
    refine ⟨fails.unsure ∘ chosen.becomes.sure, ⟨_, .inr rfl, ?_⟩, ?_⟩
    · exact chosen.becomes.trans (chosen.becomes.shelf ▸ fails.same)
    · rw [fails.same.shelf]
      exact chosen.stocked
  rintro _ ⟨s'', _⟩ ⟨rfl, becomes⟩
  refine Action.ends_of_ok rfl ⟨⟨full, last, opened, rfl, chosen.becomes.trans becomes⟩, ?_⟩
  have kept := chosen.stocked.update (full ++ [{ last with rows := last.rows + 1 }])
    (by rw [here]; simp)
  rw [shelf, Function.update_idem] at kept
  rw [becomes.shelf]
  exact kept

end BucketedCounter

/-- **The rows of an object** are those of the buckets on its shelf. -/
theorem totalRows_ends {B : Type} [BucketStore B] {v : BucketView B} (lawful : v.Lawful)
    (object : String) {s : B} (sane : v.sane s) :
    (totalRows object).Ends
      (fun n s' => n = ((v.shelf s object).map Bucket.rows).sum ∧ v.Becomes s (v.shelf s) s')
      (fun _ => v.Fails s) s := by
  refine (lawful.bucketsOf object s sane).bind ?_
  rintro _ s' ⟨rfl, becomes⟩
  refine Action.ends_of_ok rfl ⟨?_, becomes⟩
  rw [List.sum, List.foldr_map]

end Conveyor
