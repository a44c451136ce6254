import Conveyor.Proofs.Buckets.View
import Mathlib.Algebra.Order.Floor.Div

/-!
# The rotation of buckets

Rows that are counted one after the other fill the buckets of their object in turn: a new bucket is
begun when a row comes and the youngest is full, not before.

* `Rotated` — buckets that were filled in turn by a number of rows.
* `Rotated.room` — where the next row goes.
* `addRows` — counting rows of any objects; `Turning` is kept by it (`Turning.addRow`,
  `Turning.addRows`).
* `Rotating` — what is seen of a store.
* **`rotation`** — what is seen of the stores in memory and in a table that were empty at first.
-/

namespace Conveyor.BucketedCounter

/-! ## Buckets that are filled in turn -/

/-- Buckets that were filled in turn by a number of rows. -/
structure Rotated (c : BucketedCounter) (rows : Nat) (buckets : List Bucket) : Prop where
  total : (buckets.map Bucket.rows).sum = rows
  length : buckets.length = rows ⌈/⌉ c.capacity
  full : ∀ b ∈ buckets.dropLast, b.rows = c.capacity
  last : ∀ b ∈ buckets.getLast?, 1 ≤ b.rows ∧ b.rows ≤ c.capacity

section

variable {c : BucketedCounter} {rows : Nat} {buckets full : List Bucket} {fresh last : Bucket}

theorem sum_concat (filled : ∀ b ∈ full, b.rows = c.capacity) (last : Bucket) :
    ((full ++ [last]).map Bucket.rows).sum = full.length * c.capacity + last.rows := by
  have sum : (full.map Bucket.rows).sum = full.length * c.capacity := by
    have each : ∀ n ∈ full.map Bucket.rows, n = c.capacity := by
      intro n mem
      obtain ⟨b, there, rfl⟩ := List.mem_map.1 mem
      exact filled b there
    rw [List.eq_replicate_of_mem each, List.length_map, List.sum_replicate_nat]
  rw [List.map_append, List.sum_append, sum, List.map_singleton, List.sum_singleton]

theorem rotated_nil (c : BucketedCounter) : Rotated c 0 [] :=
  ⟨rfl, (zero_ceilDiv _).symm, nofun, nofun⟩

theorem rotated_concat (filled : ∀ b ∈ full, b.rows = c.capacity) (some : 1 ≤ last.rows)
    (fits : last.rows ≤ c.capacity) :
    Rotated c (full.length * c.capacity + last.rows) (full ++ [last]) where
  total := sum_concat filled last
  length := by
    have positive := c.capacity_pos
    rw [Nat.ceilDiv_eq_add_pred_div, List.length_append, List.length_singleton]
    refine (Nat.div_eq_of_lt_le ?_ ?_).symm
    · rw [Nat.succ_mul]
      omega
    · rw [Nat.succ_mul, Nat.succ_mul]
      omega
  full := by rwa [List.dropLast_concat]
  last := by
    intro b youngest
    rw [List.getLast?_concat] at youngest
    obtain rfl := Option.some.inj youngest
    exact ⟨some, fits⟩

/-- Buckets the last of which has no room are full. -/
theorem Rotated.filled (h : Rotated c rows buckets)
    (crowded : ¬ buckets.getLast?.any (·.rows < c.capacity)) :
    ∀ b ∈ buckets, b.rows = c.capacity := by
  rcases List.eq_nil_or_concat' buckets with rfl | ⟨earlier, youngest, rfl⟩
  · exact nofun
  have filled := h.full
  have fits := (h.last youngest (by simp)).2
  have crowded : ¬ youngest.rows < c.capacity := by simpa using crowded
  rw [List.dropLast_concat] at filled
  intro b mem
  rcases List.mem_append.1 mem with mem | mem
  · exact filled b mem
  · obtain rfl := List.mem_singleton.1 mem
    omega

/-- **Where the next row goes**: to a bucket that has room, behind others that are full. -/
theorem Rotated.room (h : Rotated c rows buckets) (empty : fresh.rows = 0)
    (opened : c.opened fresh buckets = full ++ [last]) :
    (∀ b ∈ full, b.rows = c.capacity) ∧ last.rows < c.capacity ∧
      full.length * c.capacity + last.rows = rows ∧ buckets <+: full ++ [last] := by
  have total := h.total
  rw [BucketedCounter.opened] at opened
  split at opened
  · rename_i room
    subst opened
    have filled := h.full
    rw [List.dropLast_concat] at filled
    rw [sum_concat filled] at total
    refine ⟨filled, ?_, total, List.prefix_rfl⟩
    simpa using room
  · rename_i crowded
    obtain ⟨rfl, same⟩ := List.append_inj' opened rfl
    obtain rfl := List.singleton_inj.1 same
    have filled := h.filled crowded
    have sum := sum_concat filled fresh
    rw [List.map_append, List.sum_append, total, List.map_singleton, List.sum_singleton] at sum
    exact ⟨filled, empty ▸ c.capacity_pos, by omega, List.prefix_append _ _⟩

/-- One more row. -/
theorem Rotated.push (h : Rotated c rows buckets) (empty : fresh.rows = 0)
    (opened : c.opened fresh buckets = full ++ [last]) :
    Rotated c (rows + 1) (full ++ [{ last with rows := last.rows + 1 }]) := by
  obtain ⟨filled, room, total, -⟩ := h.room empty opened
  have pushed : Rotated c _ (full ++ [{ last with rows := last.rows + 1 }]) :=
    rotated_concat filled (Nat.succ_pos _) room
  rwa [← Nat.add_assoc, total] at pushed

end

/-! ## Rows of any objects -/

section

variable {B : Type} [BucketStore B]

/-- Counts rows of objects, one after the other. -/
def addRows (c : BucketedCounter) : List String → Action (B × IdSource) StoreError (List Bucket)
  | [] => pure []
  | object :: rest => do
      let bucket ← c.addRow object
      let buckets ← c.addRows rest
      pure (bucket :: buckets)

/-- What is seen of a store once rows of some objects are counted. -/
structure Rotating (c : BucketedCounter) (rows : List String) (s : B × IdSource) : Prop where
  rotated : ∀ object, ∃ buckets, (BucketStore.bucketsOf object s.1).1 = .ok buckets ∧
    Rotated c (rows.count object) buckets
  total : ∀ object, (totalRows object s.1).1 = .ok (rows.count object)
  /-- Whichever object the next row is of, the last bucket of the object takes it and is answered,
  and nothing changes for the others. -/
  next : ∀ object, ∃ bucket s', c.addRow object s = (.ok bucket, s') ∧
    (∃ full, (BucketStore.bucketsOf object s'.1).1 = .ok (full ++ [bucket])) ∧
    ∀ other, other ≠ object →
      (BucketStore.bucketsOf other s'.1).1 = (BucketStore.bucketsOf other s.1).1
  /-- Whatever else is counted, the buckets stay where they are under their names. -/
  lasting : ∀ later, ∃ answers s', c.addRows later s = (.ok answers, s') ∧
    ∀ object, ∃ before after, (BucketStore.bucketsOf object s.1).1 = .ok before ∧
      (BucketStore.bucketsOf object s'.1).1 = .ok after ∧
      before.map Bucket.bucketId <+: after.map Bucket.bucketId

/-- What holds of a store, as it is seen, once rows of some objects are counted. -/
structure Turning (v : BucketView B) (c : BucketedCounter) (rows : List String)
    (s : B × IdSource) : Prop where
  sane : v.sane s.1
  sure : v.sure s.1
  stocked : Stocked (v.shelf s.1) s.2
  rotated : ∀ object, Rotated c (rows.count object) (v.shelf s.1 object)

variable {v : BucketView B} {c : BucketedCounter} {rows : List String} {s : B × IdSource}

/-- **A row is counted** in the last bucket of its object. -/
theorem Turning.addRow (lawful : v.Lawful) (h : Turning v c rows s) (object : String) :
    ∃ full bucket s', c.addRow object s = (.ok bucket, s') ∧
      v.shelf s'.1 = Function.update (v.shelf s.1) object (full ++ [bucket]) ∧
      (v.shelf s.1 object).map Bucket.bucketId <+: (full ++ [bucket]).map Bucket.bucketId ∧
      Turning v c (rows ++ [object]) s' := by
  rcases (addRow_ends lawful c object h.sane h.stocked).cases with
    ⟨bucket, s', run, ⟨full, last, opened, rfl, becomes⟩, stocked⟩ | ⟨err, s', run, uncounted⟩
  · obtain ⟨-, -, -, earlier⟩ := (h.rotated object).room rfl opened
    refine ⟨full, _, s', run, becomes.shelf, ?_, becomes.sane, becomes.sure h.sure, stocked, ?_⟩
    · simpa using earlier.map Bucket.bucketId
    · intro other
      rw [becomes.shelf, List.count_append]
      by_cases same : other = object
      · subst same
        rw [Function.update_self, List.count_singleton_self]
        exact (h.rotated other).push rfl opened
      · have none : [object].count other = 0 :=
          List.count_eq_zero_of_not_mem (by simpa using same)
        rw [Function.update_of_ne same, none, Nat.add_zero]
        exact h.rotated other
  · exact absurd h.sure uncounted.unsure

theorem Turning.addRows (lawful : v.Lawful) (later : List String) (h : Turning v c rows s) :
    ∃ answers s', c.addRows later s = (.ok answers, s') ∧
      (∀ object, (v.shelf s.1 object).map Bucket.bucketId
        <+: (v.shelf s'.1 object).map Bucket.bucketId) ∧
      Turning v c (rows ++ later) s' := by
  induction later generalizing rows s with
  | nil => exact ⟨[], s, rfl, fun _ => List.prefix_rfl, by rwa [List.append_nil]⟩
  | cons object rest ih =>
    obtain ⟨full, bucket, between, run, shelf, kept, h⟩ := h.addRow lawful object
    obtain ⟨answers, s', runs, lasting, h⟩ := ih h
    refine ⟨bucket :: answers, s', ?_, fun other => (?_ : _ <+: _).trans (lasting other), ?_⟩
    · rw [BucketedCounter.addRows, Action.bind_of_ok run, Action.bind_of_ok runs]
      rfl
    · rw [shelf]
      by_cases same : other = object
      · subst same
        rwa [Function.update_self]
      · rw [Function.update_of_ne same]
    · rwa [List.append_assoc] at h

theorem Turning.bucketsOf (lawful : v.Lawful) (h : Turning v c rows s) (object : String) :
    (BucketStore.bucketsOf object s.1).1 = .ok (v.shelf s.1 object) := by
  rcases (lawful.bucketsOf object s.1 h.sane).cases with ⟨_, _, run, rfl, -⟩ | ⟨_, _, _, fails⟩
  · rw [run]
  · exact absurd h.sure fails.unsure

theorem Turning.rotating (lawful : v.Lawful) (h : Turning v c rows s) : Rotating c rows s where
  rotated object := ⟨_, h.bucketsOf lawful object, h.rotated object⟩
  total object := by
    rcases (totalRows_ends lawful object h.sane).cases with ⟨_, _, run, rfl, -⟩ | ⟨_, _, _, fails⟩
    · rw [run, (h.rotated object).total]
    · exact absurd h.sure fails.unsure
  next object := by
    obtain ⟨full, bucket, s', run, shelf, -, after⟩ := h.addRow lawful object
    refine ⟨bucket, s', run, ⟨full, ?_⟩, fun other apart => ?_⟩
    · rw [after.bucketsOf lawful, shelf, Function.update_self]
    · rw [after.bucketsOf lawful, h.bucketsOf lawful, shelf, Function.update_of_ne apart]
  lasting later := by
    obtain ⟨answers, s', runs, lasting, after⟩ := h.addRows lawful later
    exact ⟨answers, s', runs, fun object =>
      ⟨_, _, h.bucketsOf lawful object, after.bucketsOf lawful object, lasting object⟩⟩

/-- A store that was empty at first. -/
theorem exists_rotating (lawful : v.Lawful) (c : BucketedCounter) (rows : List String)
    {empty : B} {ids : IdSource} (sane : v.sane empty) (sure : v.sure empty)
    (none : ∀ object, v.shelf empty object = []) (injective : Function.Injective ids.name) :
    ∃ answers s, c.addRows rows (empty, ids) = (.ok answers, s) ∧ Rotating c rows s := by
  have start : Turning v c [] (empty, ids) :=
    ⟨sane, sure, .of_nil injective none, fun object => by rw [none]; exact rotated_nil c⟩
  obtain ⟨answers, s, run, -, h⟩ := start.addRows lawful rows
  exact ⟨answers, s, run, h.rotating lawful⟩

end

/-- **Buckets rotate**: whatever rows are counted in a store that was empty, the buckets of an
object hold as many rows as were counted for it, all but the last are full, and the last is not
empty; every row goes to the last bucket of its object, and no bucket is lost or renamed. -/
theorem rotation (c : BucketedCounter) {ids : IdSource} (injective : Function.Injective ids.name)
    (rows : List String) :
    (∃ answers s, c.addRows rows (MemoryBuckets.empty, ids) = (.ok answers, s) ∧
      Rotating c rows s) ∧
    ∃ answers s, c.addRows rows ((Table.empty : TableBuckets), ids) = (.ok answers, s) ∧
      Rotating c rows s :=
  ⟨exists_rotating lawful_memory c rows trivial trivial (fun _ => rfl) injective,
    exists_rotating lawful_table c rows TableBuckets.sane_empty trivial (fun _ => rfl) injective⟩

/-- Three rows of one object need two buckets for two rows each, whatever comes in between. -/
theorem rotation_of_strokes :
    (((⟨2, by decide⟩ : BucketedCounter).addRows ["ship", "port", "ship", "ship"]
        (MemoryBuckets.empty, strokes)).2.1.buckets
      = [⟨"ship", "", 2⟩, ⟨"port", "I", 1⟩, ⟨"ship", "II", 1⟩]) ∧
    (∃ answers s, (⟨2, by decide⟩ : BucketedCounter).addRows ["ship", "port", "ship", "ship"]
        (MemoryBuckets.empty, strokes) = (.ok answers, s) ∧
      Rotating ⟨2, by decide⟩ ["ship", "port", "ship", "ship"] s) ∧
    ∃ answers s, (⟨2, by decide⟩ : BucketedCounter).addRows ["ship", "port", "ship", "ship"]
        ((Table.empty : TableBuckets), strokes) = (.ok answers, s) ∧
      Rotating ⟨2, by decide⟩ ["ship", "port", "ship", "ship"] s :=
  ⟨by decide +kernel, rotation ⟨2, by decide⟩ strokes_injective ["ship", "port", "ship", "ship"]⟩

end Conveyor.BucketedCounter
