import Conveyor.Buckets.Counter
import Conveyor.Buckets.Memory
import Conveyor.Proofs.Interleaving
import Mathlib.Data.List.Nodup

/-!
# Writers at the same time

A writer chooses a bucket and then counts its row in it, and these are calls of their own: while it
holds the bucket that it has chosen, others may choose the same one.  A bucket is only chosen while
it is not full or new, though, so the rows in it and the writers that hold it never come to more
than fill it once and have all other writers add a row.

* `Writer` — how far a writer has come; `Writer.next` is its next call.
* `Writer.run_alone` — a writer that is not disturbed does what `BucketedCounter.addRow` does.
* `Writer.Turn` — what the next call does to the buckets of the object and to the writer.
* `Racing` — what holds of the writers and the buckets at any time.
* **`racing_writers`** — no row goes uncounted, and no bucket is overfilled by as many rows as there
  are writers.
-/

namespace Conveyor

namespace BucketedCounter

/-! ## Writers -/

/-- What a writer is about to do. -/
inductive Phase where
  | choosing
  | allocating
  /-- It has chosen a bucket for its row. -/
  | holding (bucket : Bucket)
deriving DecidableEq

/-- A writer that counts one row after the other. -/
structure Writer where
  /-- The rows that it has yet to turn to. -/
  left : Nat
  /-- What the rows that it has counted were answered. -/
  written : List Bucket
  phase : Phase

namespace Writer

/-- A writer that is to count some rows. -/
def fresh (rows : Nat) : Writer := ⟨rows, [], .choosing⟩

/-- All rows that a writer is to count. -/
def rows (w : Writer) : Nat :=
  w.left + w.written.length + if w.phase = .choosing then 0 else 1

section

variable {B : Type} [BucketStore B] (c : BucketedCounter) (object : String)

/-- What to do about the bucket that was found to be the youngest. -/
def chosen : Option Bucket → Phase
  | some bucket => if bucket.rows < c.capacity then .holding bucket else .allocating
  | none => .allocating

/-- The next call that a writer makes. -/
def next : Routine (B × IdSource) StoreError Writer
  | ⟨left, written, phase⟩ =>
      match phase with
      | .choosing =>
          match left with
          | 0 => none
          | left + 1 => some do
              let current ← Action.on .fst (BucketStore.current object)
              pure ⟨left, written, chosen c current⟩
      | .allocating => some do
          let bucket ← BucketStore.allocate object
          pure ⟨left, written, .holding bucket⟩
      | .holding bucket => some do
          Action.on .fst (BucketStore.increment object bucket.bucketId 1)
          pure ⟨left, written ++ [{ bucket with rows := bucket.rows + 1 }], .choosing⟩

/-! ## A writer that is not disturbed -/

variable {c object} {left : Nat} {written : List Bucket} {bucket : Bucket} {s s' : B × IdSource}

theorem run_choosing (choice : c.choose object s = (.ok bucket, s')) :
    Crew.Run (next c object) ⟨[⟨left + 1, written, .choosing⟩], s⟩
      ⟨[⟨left, written, .holding bucket⟩], s'⟩ := by
  obtain ⟨current, s₁, found, rest⟩ := Action.exists_of_bind_eq_ok choice
  have look : Crew.Step (next c object) ⟨[⟨left + 1, written, .choosing⟩], s⟩
      ⟨[⟨left, written, chosen c current⟩], s₁⟩ := .alone rfl (Action.bind_of_ok found)
  have allocate (allocated : BucketStore.allocate object s₁ = (.ok bucket, s')) :
      Crew.Step (next c object) ⟨[⟨left, written, .allocating⟩], s₁⟩
        ⟨[⟨left, written, .holding bucket⟩], s'⟩ := .alone rfl (Action.bind_of_ok allocated)
  cases current with
  | none => exact .tail (.single look) (allocate rest)
  | some youngest =>
    simp only [chosen] at look rest
    split at rest
    · rename_i room
      rw [if_pos room] at look
      cases rest
      exact .single look
    · rename_i full
      rw [if_neg full] at look
      exact .tail (.single look) (allocate rest)

/-- **A writer that is not disturbed** counts its row as the counter does. -/
theorem run_alone (counted : c.addRow object s = (.ok bucket, s')) :
    Crew.Run (next c object) ⟨[⟨left + 1, written, .choosing⟩], s⟩
      ⟨[⟨left, written ++ [bucket], .choosing⟩], s'⟩ := by
  obtain ⟨target, s₁, choice, rest⟩ := Action.exists_of_bind_eq_ok counted
  obtain ⟨_, s₂, written_down, last⟩ := Action.exists_of_bind_eq_ok rest
  cases last
  exact .tail (run_choosing choice) (.alone rfl (Action.bind_of_ok written_down))

end

end Writer

end BucketedCounter

/-! ## The buckets of an object -/

namespace MemoryBuckets

/-- Buckets after a row was counted in the one of a name. -/
def counted (bucketId : String) (buckets : List Bucket) : List Bucket :=
  buckets.map fun b => if b.bucketId = bucketId then { b with rows := b.rows + 1 } else b

variable {object bucketId : String} {s : MemoryBuckets}

theorem bucketsOf_allocate (object : String) (s : MemoryBuckets) (ids : IdSource) :
    (allocate object (s, ids)).2.1.bucketsOf object
      = s.bucketsOf object ++ [⟨object, ids.next, 0⟩] := by
  show (s.buckets ++ [_]).filter _ = s.buckets.filter _ ++ _
  rw [List.filter_append]
  simp

/-- A row counted in a bucket of an object that is there. -/
theorem increment_of_mem {bucket : Bucket} (mem : bucket ∈ s.bucketsOf object) (ids : IdSource) :
    ∃ s', (Action.on .fst (BucketStore.increment object bucket.bucketId 1) :
        Action (MemoryBuckets × IdSource) StoreError Unit) (s, ids) = (.ok (), (s', ids)) ∧
      s'.bucketsOf object = counted bucket.bucketId (s.bucketsOf object) := by
  obtain ⟨mem, own⟩ := List.mem_filter.1 mem
  have there : (s.buckets.any fun b => b.objectId = object && b.bucketId = bucket.bucketId)
      = true := List.any_eq_true.2 ⟨bucket, mem, by simpa using own⟩
  have written : increment object bucket.bucketId 1 s = (.ok (), _) := if_pos there
  refine ⟨_, congrArg (fun r => (r.1, (r.2, ids))) written, ?_⟩
  show (s.buckets.map _).filter _ = counted bucket.bucketId (s.buckets.filter _)
  rw [counted, List.filter_map]
  refine (congrArg _ (List.filter_congr fun b _ => ?_)).trans (List.map_congr_left fun b mem => ?_)
  · rw [Function.comp_apply]
    split <;> rfl
  have meant : b.objectId = object := by simpa using (List.mem_filter.1 mem).2
  simp [meant]

/-- The rows of an object are those of its buckets. -/
theorem totalRows_eq (object : String) (s : MemoryBuckets) :
    totalRows object s = (.ok ((s.bucketsOf object).map Bucket.rows).sum, s) := by
  refine congrArg (fun n => (Except.ok n, s)) ?_
  show (s.bucketsOf object).foldr (fun b count => b.rows + count) 0 = _
  rw [List.sum, List.foldr_map]

variable {buckets : List Bucket}

theorem map_bucketId_counted (bucketId : String) (buckets : List Bucket) :
    (counted bucketId buckets).map Bucket.bucketId = buckets.map Bucket.bucketId := by
  rw [counted, List.map_map]
  refine List.map_congr_left fun b _ => ?_
  rw [Function.comp_apply]
  split <;> rfl

theorem exists_of_mem_counted {b : Bucket} (mem : b ∈ counted bucketId buckets) :
    ∃ old ∈ buckets, b.bucketId = old.bucketId ∧
      b.rows = old.rows + if old.bucketId = bucketId then 1 else 0 := by
  obtain ⟨old, there, rfl⟩ := List.mem_map.1 mem
  refine ⟨old, there, ?_⟩
  split <;> exact ⟨rfl, rfl⟩

/-- A bucket of a name that is given once takes one row. -/
theorem sum_counted (distinct : (buckets.map Bucket.bucketId).Nodup) {bucket : Bucket}
    (mem : bucket ∈ buckets) :
    ((counted bucket.bucketId buckets).map Bucket.rows).sum
      = (buckets.map Bucket.rows).sum + 1 := by
  induction buckets with
  | nil => cases mem
  | cons b rest ih =>
    rw [List.map_cons, List.nodup_cons] at distinct
    obtain ⟨apart, distinct⟩ := distinct
    rw [counted, List.map_cons, ← counted]
    rcases List.mem_cons.1 mem with rfl | mem
    · have others : counted bucket.bucketId rest = rest := by
        refine (List.map_congr_left fun b mem => if_neg fun same => apart ?_).trans (List.map_id _)
        exact List.mem_map.2 ⟨b, mem, same⟩
      rw [others, if_pos rfl, List.map_cons, List.map_cons, List.sum_cons, List.sum_cons]
      simp only
      omega
    · have other : b.bucketId ≠ bucket.bucketId :=
        fun same => apart (List.mem_map.2 ⟨bucket, mem, same.symm⟩)
      rw [if_neg other, List.map_cons, List.map_cons, List.sum_cons, List.sum_cons, ih distinct mem]
      omega

end MemoryBuckets

namespace BucketedCounter

/-- In memory a bucket is found for every row, and it is there. -/
theorem exists_chosen (c : BucketedCounter) (object : String) (s : MemoryBuckets × IdSource) :
    ∃ bucket s', c.choose object s = (.ok bucket, s') ∧ bucket ∈ s'.1.bucketsOf object := by
  have found : (Action.on .fst (BucketStore.current object) :
      Action (MemoryBuckets × IdSource) StoreError (Option Bucket)) s
      = (.ok (s.1.bucketsOf object).getLast?, s) := rfl
  have new : ∃ bucket s', (BucketStore.allocate object :
      Action (MemoryBuckets × IdSource) StoreError Bucket) s = (.ok bucket, s') ∧
      bucket ∈ s'.1.bucketsOf object := by
    refine ⟨_, _, rfl, ?_⟩
    rw [MemoryBuckets.bucketsOf_allocate]
    exact List.mem_append_right _ (List.mem_singleton_self _)
  rw [choose, Action.bind_of_ok found]
  cases youngest : (s.1.bucketsOf object).getLast? with
  | none => exact new
  | some bucket =>
    by_cases room : bucket.rows < c.capacity
    · simp only [if_pos room]
      exact ⟨bucket, s, rfl, List.mem_of_getLast? youngest⟩
    · simp only [if_neg room]
      exact new

/-- In memory every row is counted. -/
theorem exists_counted (c : BucketedCounter) (object : String) (s : MemoryBuckets × IdSource) :
    ∃ bucket s', c.addRow object s = (.ok bucket, s') := by
  obtain ⟨bucket, ⟨buckets, ids⟩, chosen, mem⟩ := c.exists_chosen object s
  obtain ⟨buckets', counted, -⟩ := MemoryBuckets.increment_of_mem mem ids
  exact ⟨_, _, (Action.bind_of_ok chosen).trans (Action.bind_of_ok counted)⟩

namespace Writer

variable {c : BucketedCounter} {object : String} {w w' : Writer} {s : MemoryBuckets × IdSource}

/-! ## What a step does -/

/-- Whether a writer holds the bucket of a name. -/
def holds (bucketId : String) (w : Writer) : Bool :=
  match w.phase with
  | .holding bucket => bucket.bucketId = bucketId
  | _ => false

/-- What the next call of a writer does to itself and to the buckets of the object. -/
inductive Turn (c : BucketedCounter) (object : String) (buckets : List Bucket) (ids : IdSource) :
    Writer → Writer → List Bucket → IdSource → Prop where
  | choose (left : Nat) (written : List Bucket) :
      Turn c object buckets ids ⟨left + 1, written, .choosing⟩
        ⟨left, written, chosen c buckets.getLast?⟩ buckets ids
  | allocate (left : Nat) (written : List Bucket) :
      Turn c object buckets ids ⟨left, written, .allocating⟩
        ⟨left, written, .holding ⟨object, ids.next, 0⟩⟩ (buckets ++ [⟨object, ids.next, 0⟩])
        ids.draw
  | count (left : Nat) (written : List Bucket) (bucket : Bucket) :
      Turn c object buckets ids ⟨left, written, .holding bucket⟩
        ⟨left, written ++ [{ bucket with rows := bucket.rows + 1 }], .choosing⟩
        (MemoryBuckets.counted bucket.bucketId buckets) ids

/-- **The next call of a writer succeeds** if the bucket is there that it holds. -/
theorem exists_turn {act : Action (MemoryBuckets × IdSource) StoreError Writer}
    (here : next c object w = some act)
    (held : ∀ h, w.phase = .holding h → h.bucketId ∈ (s.1.bucketsOf object).map Bucket.bucketId) :
    ∃ w' s', act s = (.ok w', s') ∧
      Turn c object (s.1.bucketsOf object) s.2 w w' (s'.1.bucketsOf object) s'.2 := by
  obtain ⟨left, written, phase⟩ := w
  obtain ⟨buckets, ids⟩ := s
  cases phase with
  | choosing =>
    cases left with
    | zero => cases here
    | succ left =>
      cases here
      exact ⟨_, _, rfl, .choose left written⟩
  | allocating =>
    cases here
    refine ⟨_, (MemoryBuckets.allocate object (buckets, ids)).2, rfl, ?_⟩
    rw [MemoryBuckets.bucketsOf_allocate]
    exact .allocate left written
  | holding bucket =>
    cases here
    obtain ⟨there, mem, same⟩ := List.mem_map.1 (held bucket rfl)
    obtain ⟨s', counted, after⟩ := MemoryBuckets.increment_of_mem mem ids
    rw [same] at counted after
    refine ⟨_, (s', ids), Action.bind_of_ok counted, ?_⟩
    rw [after]
    exact .count left written bucket

end Writer

/-! ## What holds at any time -/

/-- What holds of writers that are to count some rows, of the buckets of the object, and of the
supply of names. -/
structure Racing (c : BucketedCounter) (rows : List Nat) (name : Nat → String) (ws : List Writer)
    (buckets : List Bucket) (ids : IdSource) : Prop where
  pledged : ws.map Writer.rows = rows
  supply : ids.name = name
  drawn : ∀ b ∈ buckets, ∃ i < ids.drawn, b.bucketId = name i
  distinct : (buckets.map Bucket.bucketId).Nodup
  /-- The buckets that are held are there. -/
  held : ∀ w ∈ ws, ∀ h, w.phase = .holding h → h.bucketId ∈ buckets.map Bucket.bucketId
  /-- A bucket has not been chosen more often than all writers together can without knowing of
  each other. -/
  room : ∀ b ∈ buckets, b.rows + ws.countP (Writer.holds b.bucketId) < c.capacity + ws.length
  total : (buckets.map Bucket.rows).sum = (ws.map fun w => w.written.length).sum

section

variable {c : BucketedCounter} {object : String} {rows : List Nat} {name : Nat → String}
  {before after : List Writer} {w w' : Writer} {buckets buckets' : List Bucket}
  {ids ids' : IdSource}

open Writer

theorem Writer.chosen_cases {found : Option Bucket} {phase : Phase}
    (h : chosen c found = phase) :
    phase = .allocating ∨ ∃ b, phase = .holding b ∧ found = some b ∧ b.rows < c.capacity := by
  subst h
  cases found with
  | none => exact .inl rfl
  | some b =>
    rw [chosen]
    split
    · rename_i room
      exact .inr ⟨b, rfl, rfl, room⟩
    · exact .inl rfl

theorem Writer.Turn.rows_eq (turn : Turn c object buckets ids w w' buckets' ids') :
    w'.rows = w.rows := by
  cases turn with
  | choose left written =>
    have busy : chosen c buckets.getLast? ≠ .choosing := by
      rcases chosen_cases (c := c) (Eq.refl (chosen c buckets.getLast?)) with h | ⟨b, h, -, -⟩ <;>
        rw [h] <;> exact nofun
    simp only [Writer.rows, if_neg busy, if_true]
    omega
  | allocate left written => rfl
  | count left written bucket =>
    simp only [Writer.rows, List.length_append, List.length_singleton]
    simp
    omega

theorem Racing.pledged_turn (h : Racing c rows name (before ++ w :: after) buckets ids)
    (turn : Turn c object buckets ids w w' buckets' ids') :
    (before ++ w' :: after).map Writer.rows = rows := by
  rw [← h.pledged, List.map_append, List.map_append, List.map_cons, List.map_cons, turn.rows_eq]

theorem Racing.choose {left : Nat} {written : List Bucket}
    (h : Racing c rows name (before ++ ⟨left + 1, written, .choosing⟩ :: after) buckets ids) :
    Racing c rows name (before ++ ⟨left, written, chosen c buckets.getLast?⟩ :: after) buckets
      ids := by
  set w : Writer := ⟨left + 1, written, .choosing⟩
  set w' : Writer := ⟨left, written, chosen c buckets.getLast?⟩
  have choice : w'.phase = .allocating ∨
      ∃ b, w'.phase = .holding b ∧ buckets.getLast? = some b ∧ b.rows < c.capacity :=
    chosen_cases rfl
  have turn : Turn c "" buckets ids w w' buckets ids := .choose left written
  refine ⟨h.pledged_turn turn, h.supply, h.drawn, h.distinct, ?_, ?_, ?_⟩
  · refine Crew.forall_mem_splice h.held fun b holding => ?_
    rcases choice with none | ⟨b', some, youngest, -⟩
    · cases none.symm.trans holding
    · cases some.symm.trans holding
      exact List.mem_map_of_mem (List.mem_of_getLast? youngest)
  · intro b mem
    have room := h.room b mem
    have holders := Crew.countP_splice before after w w' (holds b.bucketId)
    have most : (before ++ w' :: after).countP (holds b.bucketId) ≤ _ := List.countP_le_length
    have size := Crew.length_splice before after w w'
    by_cases holding : w'.holds b.bucketId = true
    · -- Who chooses the bucket has seen that it is not full.
      have free : b.rows < c.capacity := by
        rw [holds] at holding
        rcases choice with none | ⟨b', some, youngest, free⟩
        · simp [none] at holding
        · simp only [some, decide_eq_true_eq] at holding
          obtain rfl := List.inj_on_of_nodup_map h.distinct (List.mem_of_getLast? youngest) mem
            holding
          exact free
      omega
    · rw [if_neg holding] at holders
      omega
  · have sums := Crew.sum_splice before after w w' fun w => w.written.length
    rw [h.total]
    exact (Nat.add_right_cancel sums).symm

theorem Racing.allocate {left : Nat} {written : List Bucket}
    (h : Racing c rows name (before ++ ⟨left, written, .allocating⟩ :: after) buckets ids)
    (injective : Function.Injective name) :
    Racing c rows name (before ++ ⟨left, written, .holding ⟨object, ids.next, 0⟩⟩ :: after)
      (buckets ++ [⟨object, ids.next, 0⟩]) ids.draw := by
  set w : Writer := ⟨left, written, .allocating⟩
  set w' : Writer := ⟨left, written, .holding ⟨object, ids.next, 0⟩⟩
  have own : ids.next = name ids.drawn := congrFun h.supply ids.drawn
  have unused : ∀ b ∈ buckets, b.bucketId ≠ ids.next := by
    intro b mem same
    obtain ⟨i, lt, drawn⟩ := h.drawn b mem
    have := injective (drawn.symm.trans (same.trans own))
    omega
  refine ⟨h.pledged_turn (.allocate left written), h.supply, ?_, ?_, ?_, ?_, ?_⟩
  · intro b mem
    rcases List.mem_append.1 mem with mem | mem
    · obtain ⟨i, lt, drawn⟩ := h.drawn b mem
      exact ⟨i, Nat.lt_succ_of_lt lt, drawn⟩
    · obtain rfl := List.mem_singleton.1 mem
      exact ⟨ids.drawn, Nat.lt_succ_self _, own⟩
  · rw [List.map_append, List.nodup_append]
    refine ⟨h.distinct, List.nodup_singleton _, ?_⟩
    rintro _ old _ new rfl
    obtain ⟨b, mem, same⟩ := List.mem_map.1 old
    exact unused b mem (same.trans (List.mem_singleton.1 new))
  · rw [List.map_append]
    have held : ∀ m ∈ before ++ w :: after, ∀ b, m.phase = .holding b → b.bucketId
        ∈ buckets.map Bucket.bucketId ++ [(⟨object, ids.next, 0⟩ : Bucket)].map Bucket.bucketId :=
      fun m mem b holding => List.mem_append_left _ (h.held m mem b holding)
    refine Crew.forall_mem_splice held fun b holding => ?_
    cases holding
    exact List.mem_append_right _ (List.mem_singleton_self _)
  · intro b mem
    have holders := Crew.countP_splice before after w w' (holds b.bucketId)
    have most : (before ++ w' :: after).countP (holds b.bucketId) ≤ _ := List.countP_le_length
    have size := Crew.length_splice before after w w'
    rcases List.mem_append.1 mem with mem | mem
    · have room := h.room b mem
      have other : w'.holds b.bucketId = false := decide_eq_false (unused b mem).symm
      rw [other] at holders
      simp only [Bool.false_eq_true, if_false] at holders
      omega
    · obtain rfl := List.mem_singleton.1 mem
      have positive := c.capacity_pos
      simp only at most ⊢
      omega
  · have sums := Crew.sum_splice before after w w' fun w => w.written.length
    rw [List.map_append, List.sum_append, h.total]
    exact (Nat.add_right_cancel sums).symm

theorem Racing.count {left : Nat} {written : List Bucket} {bucket : Bucket}
    (h : Racing c rows name (before ++ ⟨left, written, .holding bucket⟩ :: after) buckets ids) :
    Racing c rows name
      (before ++ ⟨left, written ++ [{ bucket with rows := bucket.rows + 1 }], .choosing⟩ :: after)
      (MemoryBuckets.counted bucket.bucketId buckets) ids := by
  set w : Writer := ⟨left, written, .holding bucket⟩
  set w' : Writer := ⟨left, written ++ [{ bucket with rows := bucket.rows + 1 }], .choosing⟩
  have turn : Turn c "" buckets ids w w' _ ids := .count left written bucket
  have kept := MemoryBuckets.map_bucketId_counted bucket.bucketId buckets
  refine ⟨h.pledged_turn turn, h.supply, ?_, kept ▸ h.distinct, ?_, ?_, ?_⟩
  · intro b mem
    obtain ⟨old, mem, same, -⟩ := MemoryBuckets.exists_of_mem_counted mem
    obtain ⟨i, lt, drawn⟩ := h.drawn old mem
    exact ⟨i, lt, same.trans drawn⟩
  · rw [kept]
    exact Crew.forall_mem_splice h.held fun b holding => by cases holding
  · intro b mem
    obtain ⟨old, mem, same, more⟩ := MemoryBuckets.exists_of_mem_counted mem
    have room := h.room old mem
    have holders := Crew.countP_splice before after w w' (holds old.bucketId)
    have size := Crew.length_splice before after w w'
    have through : w'.holds old.bucketId = false := rfl
    have held : w.holds old.bucketId = decide (bucket.bucketId = old.bucketId) := rfl
    rw [through, held] at holders
    rw [same, more]
    by_cases meant : old.bucketId = bucket.bucketId
    · rw [if_pos meant]
      rw [decide_eq_true meant.symm] at holders
      simp only [Bool.false_eq_true, if_true, if_false] at holders
      omega
    · rw [if_neg meant]
      simp only [Bool.false_eq_true, if_false] at holders
      omega
  · have sums := Crew.sum_splice before after w w' fun w => w.written.length
    have longer : w'.written.length = w.written.length + 1 := List.length_append
    obtain ⟨b, mem, same⟩ := List.mem_map.1
      (h.held w (List.mem_append_right _ List.mem_cons_self) bucket rfl)
    have more := MemoryBuckets.sum_counted h.distinct mem
    rw [same, h.total] at more
    omega

/-- **Every step of a writer keeps** what holds at any time. -/
theorem Racing.turn (h : Racing c rows name (before ++ w :: after) buckets ids)
    (injective : Function.Injective name)
    (turn : Turn c object buckets ids w w' buckets' ids') :
    Racing c rows name (before ++ w' :: after) buckets' ids' := by
  cases turn with
  | choose left written => exact h.choose
  | allocate left written => exact h.allocate injective
  | count left written bucket => exact h.count

/-- **Whatever the order of the steps**, it is kept, and no call fails. -/
theorem Racing.run {s : MemoryBuckets × IdSource} {ws : List Writer}
    {crew : Crew (MemoryBuckets × IdSource) Writer} (injective : Function.Injective name)
    (h : Racing c rows name ws (s.1.bucketsOf object) s.2)
    (run : Crew.Run (next c object) ⟨ws, s⟩ crew) :
    Racing c rows name crew.members (crew.shared.1.bucketsOf object) crew.shared.2 := by
  refine run.keeps (P := fun crew => Racing c rows name crew.members
    (crew.shared.1.bucketsOf object) crew.shared.2) h ?_
  rintro _ _ racing (⟨here, run⟩ : Crew.Step (next c object) _ _)
  rename_i before after w w' s s' act
  obtain ⟨w₁, s₁, run₁, turn⟩ :=
    exists_turn here (racing.held w (List.mem_append_right _ List.mem_cons_self))
  cases run.symm.trans run₁
  exact racing.turn injective turn

theorem Racing.sound {crew : Crew (MemoryBuckets × IdSource) Writer}
    (h : Racing c rows name crew.members (crew.shared.1.bucketsOf object) crew.shared.2) :
    crew.Sound (next c object) := by
  intro w mem act here
  obtain ⟨w', s', run, -⟩ := exists_turn here (h.held w mem)
  exact ⟨w', s', run⟩

theorem Racing.fresh (rows : List Nat) {s : MemoryBuckets × IdSource}
    (none : s.1.bucketsOf object = []) :
    Racing c rows s.2.name (rows.map Writer.fresh) (s.1.bucketsOf object) s.2 := by
  rw [none]
  refine ⟨?_, rfl, nofun, .nil, fun w mem h holding => ?_, nofun, ?_⟩
  · rw [List.map_map]
    exact (List.map_congr_left fun n _ => rfl).trans (List.map_id _)
  · obtain ⟨n, -, rfl⟩ := List.mem_map.1 mem
    cases holding
  · simp [Function.comp_def, Writer.fresh]

end

/-! ## Writers that race -/

/-- **Writers at the same time lose no row and hardly overfill a bucket.**  What a writer does in
steps is what the counter does with one row if the others wait meanwhile.  But whatever the order of
their steps on an object without buckets, no call fails, the rows of the object are those that the
writers have counted, and no bucket holds as many rows as its capacity and the writers together. -/
theorem racing_writers (c : BucketedCounter) (object : String) (rows : List Nat)
    {s : MemoryBuckets × IdSource} (none : s.1.bucketsOf object = [])
    (injective : Function.Injective s.2.name) {crew : Crew (MemoryBuckets × IdSource) Writer}
    (run : Crew.Run (Writer.next c object) ⟨rows.map Writer.fresh, s⟩ crew) :
    (∀ (s : MemoryBuckets × IdSource) (left : Nat) (written : List Bucket)
        (before after : List Writer), ∃ bucket s', c.addRow object s = (.ok bucket, s') ∧
      Crew.Run (Writer.next c object) ⟨before ++ ⟨left + 1, written, .choosing⟩ :: after, s⟩
        ⟨before ++ ⟨left, written ++ [bucket], .choosing⟩ :: after, s'⟩) ∧
      crew.Sound (Writer.next c object) ∧
      crew.members.map Writer.rows = rows ∧
      (totalRows object crew.shared.1).1 = .ok (crew.members.map fun w => w.written.length).sum ∧
      ∀ b ∈ crew.shared.1.bucketsOf object, b.rows ≤ c.capacity + rows.length - 1 := by
  have racing := Racing.run injective (Racing.fresh rows none) run
  refine ⟨fun s left written before after => ?_, racing.sound, racing.pledged, ?_, fun b mem => ?_⟩
  · obtain ⟨bucket, s', counted⟩ := c.exists_counted object s
    exact ⟨bucket, s', counted, (Writer.run_alone counted).among before after⟩
  · rw [MemoryBuckets.totalRows_eq, racing.total]
  · have room := racing.room b mem
    have size : crew.members.length = rows.length := by rw [← racing.pledged, List.length_map]
    omega

/-- Names that are told apart by their lengths. -/
def strokes : IdSource := ⟨fun k => String.ofList (List.replicate k 'I'), 0⟩

theorem strokes_injective : Function.Injective strokes.name := by
  intro k k' same
  have lengths := congrArg (List.length ∘ String.toList) same
  simpa [strokes] using lengths

/-- Two writers choose a bucket that has room for one more row before either counts its own. -/
def crowdingCrew : Crew (MemoryBuckets × IdSource) Writer :=
  Crew.follow (Writer.next ⟨2, by decide⟩ "hot") [0, 0, 0, 0, 1, 0, 1]
    ⟨[2, 1].map Writer.fresh, (⟨[⟨"cold", "I", 9⟩]⟩, strokes)⟩

/-- They overfill it by one row, and cannot do worse. -/
theorem crowdingCrew_overfills :
    crowdingCrew.shared.1.bucketsOf "hot" = [⟨"hot", "", 2 + 2 - 1⟩] ∧
      (totalRows "hot" crowdingCrew.shared.1).1
        = .ok (crowdingCrew.members.map fun w => w.written.length).sum ∧
      ∀ b ∈ crowdingCrew.shared.1.bucketsOf "hot", b.rows ≤ 2 + 2 - 1 := by
  have run : Crew.Run (Writer.next ⟨2, by decide⟩ "hot")
      ⟨[2, 1].map Writer.fresh, (⟨[⟨"cold", "I", 9⟩]⟩, strokes)⟩ crowdingCrew := Crew.run_follow _ _
  obtain ⟨-, -, -, total, full⟩ :=
    racing_writers ⟨2, by decide⟩ "hot" [2, 1] (by decide) strokes_injective run
  exact ⟨by decide +kernel, total, full⟩

end BucketedCounter

end Conveyor
