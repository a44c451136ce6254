import Conveyor.Buckets.Memory
import Conveyor.Proofs.Services.Undisturbed

/-!
# Counting beside the archive

To count a record draws names from the supply that versions are named from, but takes none back and
does nothing to the archive.  In memory it only fails if a failure is in store for it.

* `NamesInOrder` — bucket stores whose buckets are named in order, such as those in memory.
* **`leavesArchive_count`** — counting leaves the archive alone.
* `count_of_ok`, `count_of_error` — to count a record is to add a row in the bucket store.
* **`count_of_unplanned`** — counting in memory succeeds.
-/

namespace Conveyor

open Rehearsal

namespace RehearsalServices

/-! ## What counting leaves alone -/

/-- Names drawn from a supply since another moment. -/
def DrawnSince (ids ids' : IdSource) : Prop := ids'.name = ids.name ∧ ids.drawn ≤ ids'.drawn

theorem DrawnSince.refl (ids : IdSource) : DrawnSince ids ids := ⟨rfl, Nat.le_refl _⟩

theorem DrawnSince.draw {ids ids' : IdSource} (h : DrawnSince ids ids') :
    DrawnSince ids ids'.draw :=
  ⟨h.1, Nat.le_succ_of_le h.2⟩

/-- New buckets are named in the order of a supply of names. -/
def NamesInOrder (B : Type) [BucketStore B] : Prop :=
  ∀ object ids, (BucketStore.allocate object : Action (B × IdSource) StoreError Bucket).Keeps
    fun s => DrawnSince ids s.2

theorem namesInOrder_memory : NamesInOrder MemoryBuckets := fun _ _ _ h => h.draw

section

variable {B : Type} [BucketStore B]

/-- What the calls of a bucket store keep, counting a row keeps. -/
theorem addRow_keeps {P : B × IdSource → Prop} (counter : BucketedCounter) (object : String)
    (current : (Action.on .fst (BucketStore.current object) :
      Action (B × IdSource) StoreError (Option Bucket)).Keeps P)
    (allocate : (BucketStore.allocate object : Action (B × IdSource) StoreError Bucket).Keeps P)
    (increment : ∀ bucket, (Action.on .fst (BucketStore.increment object bucket 1) :
      Action (B × IdSource) StoreError Unit).Keeps P) :
    (counter.addRow object).Keeps P := by
  have choose : (counter.choose object).Keeps P := by
    refine current.bind fun found => ?_
    cases found with
    | none => exact allocate
    | some bucket =>
      simp only
      split
      · exact Action.keeps_pure _
      · exact allocate
  exact choose.bind fun bucket => (increment _).bind fun _ => Action.keeps_pure _

/-- What a count may do to a bucket store with failures in store: draw names and use up failures. -/
structure Counted (s₀ s : Faulty BucketOp StoreError B × IdSource) : Prop where
  drawn : DrawnSince s₀.2 s.2
  unplanned : ∀ op, s₀.1.plan op = [] → s.1.plan op = []

/-- **Counting a row** does no more, if buckets are named in order. -/
theorem addRow_counted (names : NamesInOrder B) (counter : BucketedCounter) (object : String)
    (s₀ : Faulty BucketOp StoreError B × IdSource) :
    (counter.addRow object).Keeps (Counted s₀) := by
  have call : ∀ {α : Type} (op : BucketOp) (x : Action B StoreError α),
      (Action.on .fst (Faulty.call op x) :
        Action (Faulty BucketOp StoreError B × IdSource) StoreError α).Keeps (Counted s₀) := by
    intro α op x s h
    obtain ⟨fault, plan, run, unplanned⟩ := Faulty.call_eq op x s.1
    have after : (Action.on .fst (Faulty.call op x) s).2 = ((Faulty.call op x s.1).2, s.2) := rfl
    rw [after, run]
    exact ⟨h.drawn, fun other none => unplanned other (h.unplanned other none)⟩
  refine addRow_keeps counter object (call .current _) (fun s h => ?_) fun bucket =>
    call .increment _
  obtain ⟨fault, plan, run, unplanned⟩ := Faulty.call_eq BucketOp.allocate
    (BucketStore.allocate object : Action (B × IdSource) StoreError Bucket) (besideIds.get s)
  have kept := (names object s₀.2).obey fault (s.1.store, s.2) h.drawn
  have after : (BucketStore.allocate object s).2
      = besideIds.set (Faulty.call BucketOp.allocate (BucketStore.allocate object)
          (besideIds.get s)).2 s := rfl
  rw [after, run]
  exact ⟨kept, fun op none => unplanned op (h.unplanned op none)⟩

/-- **Counting leaves the archive alone.** -/
theorem leavesArchive_count (names : NamesInOrder B) (counter : BucketedCounter)
    (object : String) : LeavesArchive ((bucketIndex counter bucketsPart :
      RevisionIndex (RehearsalServices B)).count object) := by
  have row : LeavesArchive (((counter.addRow object :
      Action (Faulty BucketOp StoreError B × IdSource) StoreError Bucket).on bucketsPart).mapError
        StoreError.toStepError : Action (RehearsalServices B) StepError Bucket) := by
    refine fun s₀ => Action.Keeps.mapError (fun s h => ?_) _
    have counted := addRow_counted names counter object (bucketsPart.get s) (bucketsPart.get s)
      ⟨.refl _, fun _ none => none⟩
    obtain ⟨alone, create, list, fetch, prepared⟩ := h.inOrder
    exact ⟨⟨alone, create, list, fetch, prepared⟩, h.archive, counted.drawn.1.trans h.name,
      Nat.le_trans h.drawn counted.drawn.2,
      fun op none => counted.unplanned op (h.unplanned op none)⟩
  exact fun s => (row s).bind fun _ => Action.keeps_pure _

/-- So does an index that may or may not be there. -/
theorem leavesArchive_count_of_mem (names : NamesInOrder B) (counter : BucketedCounter)
    (counted : Bool) : ∀ i ∈ (if counted then some (bucketIndex counter bucketsPart) else none :
      Option (RevisionIndex (RehearsalServices B))), ∀ object, LeavesArchive (i.count object) := by
  intro i mem object
  cases counted with
  | true =>
    obtain rfl := Option.some.inj mem
    exact leavesArchive_count names counter object
  | false => cases mem

end

/-! ## Counting is adding a row -/

section

variable {B : Type} [BucketStore B] {counter : BucketedCounter} {object : String}
  {s : RehearsalServices B} {x : Faulty BucketOp StoreError B × IdSource}

theorem count_of_ok {bucket : Bucket}
    (added : counter.addRow object (bucketsPart.get s) = (.ok bucket, x)) :
    (bucketIndex counter bucketsPart).count object s = (.ok (), bucketsPart.set x s) := by
  have row : (((counter.addRow object).on bucketsPart).mapError StoreError.toStepError :
      Action (RehearsalServices B) StepError Bucket) s = (.ok bucket, bucketsPart.set x s) := by
    refine Action.mapError_of_ok _ ?_
    rw [Action.on_apply, added]
  simp only [bucketIndex]
  rw [Action.bind_of_ok row]
  rfl

theorem count_of_error {err : StoreError}
    (failed : counter.addRow object (bucketsPart.get s) = (.error err, x)) :
    (bucketIndex counter bucketsPart).count object s
      = (.error err.toStepError, bucketsPart.set x s) := by
  have row : (((counter.addRow object).on bucketsPart).mapError StoreError.toStepError :
      Action (RehearsalServices B) StepError Bucket) s
        = (.error err.toStepError, bucketsPart.set x s) := by
    refine Action.mapError_of_error _ ?_
    rw [Action.on_apply, failed]
  simp only [bucketIndex]
  rw [Action.bind_of_error row]

end

/-! ## Counting in memory -/

section

variable {object : String} {f : Faulty BucketOp StoreError MemoryBuckets}
  (unplanned : ∀ op, f.plan op = [])

include unplanned

theorem increment_of_unplanned {bucket : Bucket} (mem : bucket ∈ f.store.bucketsOf object)
    (ids : IdSource) : ∃ s', (Action.on .fst (BucketStore.increment object bucket.bucketId 1) :
      Action (Faulty BucketOp StoreError MemoryBuckets × IdSource) StoreError Unit) (f, ids)
        = (.ok (), s') := by
  have run : (Action.on .fst (BucketStore.increment object bucket.bucketId 1) :
        Action (Faulty BucketOp StoreError MemoryBuckets × IdSource) StoreError Unit) (f, ids)
      = ((Faulty.call BucketOp.increment (MemoryBuckets.increment object bucket.bucketId 1) f).1,
        ((Faulty.call BucketOp.increment
          (MemoryBuckets.increment object bucket.bucketId 1) f).2, ids)) := rfl
  have there : (f.store.buckets.any fun b =>
      b.objectId = object && b.bucketId = bucket.bucketId) = true := by
    obtain ⟨mem, own⟩ := List.mem_filter.1 mem
    exact List.any_eq_true.2 ⟨bucket, mem, by simpa using own⟩
  have counted : (MemoryBuckets.increment object bucket.bucketId 1 f.store).1 = .ok () := by
    rw [MemoryBuckets.increment, if_pos there]
  rw [Faulty.call_of_plan_eq_nil (unplanned _), Action.on_apply] at run
  exact ⟨_, run.trans (congrArg (·, _) counted)⟩

/-- The bucket that is chosen is there. -/
theorem choose_of_unplanned (counter : BucketedCounter) (object : String) (ids : IdSource) :
    ∃ bucket f' ids', counter.choose object (f, ids) = (.ok bucket, (f', ids')) ∧
      (∀ op, f'.plan op = []) ∧ bucket ∈ f'.store.bucketsOf object := by
  have current : (Action.on .fst (BucketStore.current object) :
        Action (Faulty BucketOp StoreError MemoryBuckets × IdSource) StoreError (Option Bucket))
          (f, ids) = (.ok (f.store.bucketsOf object).getLast?, (f, ids)) := by
    have run : (Action.on .fst (BucketStore.current object) :
          Action (Faulty BucketOp StoreError MemoryBuckets × IdSource) StoreError (Option Bucket))
            (f, ids)
        = ((Faulty.call BucketOp.current (BucketStore.current object) f).1,
          ((Faulty.call BucketOp.current (BucketStore.current object) f).2, ids)) := rfl
    rw [Faulty.call_of_plan_eq_nil (unplanned _)] at run
    exact run
  have allocates : ∃ bucket f' ids',
      (BucketStore.allocate object :
        Action (Faulty BucketOp StoreError MemoryBuckets × IdSource) StoreError Bucket) (f, ids)
          = (.ok bucket, (f', ids')) ∧
        (∀ op, f'.plan op = []) ∧ bucket ∈ f'.store.bucketsOf object := by
    have allocate : (BucketStore.allocate object :
          Action (Faulty BucketOp StoreError MemoryBuckets × IdSource) StoreError Bucket) (f, ids)
        = (Faulty.call BucketOp.allocate (BucketStore.allocate object) |>.on besideIds)
            (f, ids) := rfl
    have plan : (besideIds.get (f, ids)).plan BucketOp.allocate = [] := unplanned _
    rw [Action.on_apply, Faulty.call_of_plan_eq_nil plan] at allocate
    refine ⟨_, _, _, allocate, unplanned, List.mem_filter.2 ⟨?_, decide_eq_true rfl⟩⟩
    exact List.mem_append_right _ List.mem_cons_self
  rw [BucketedCounter.choose, Action.bind_of_ok current]
  cases youngest : (f.store.bucketsOf object).getLast? with
  | none => exact allocates
  | some bucket =>
    simp only
    split
    · exact ⟨bucket, f, ids, rfl, unplanned, List.mem_of_getLast? youngest⟩
    · exact allocates

/-- A row goes to a bucket that is there, so it is counted. -/
theorem addRow_of_unplanned (counter : BucketedCounter) (object : String) (ids : IdSource) :
    ∃ bucket s', counter.addRow object (f, ids) = (.ok bucket, s') := by
  obtain ⟨bucket, f', ids', chosen, unplanned', mem⟩ :=
    choose_of_unplanned unplanned counter object ids
  obtain ⟨s', counted⟩ := increment_of_unplanned unplanned' mem ids'
  refine ⟨{ bucket with rows := bucket.rows + 1 }, s', ?_⟩
  rw [BucketedCounter.addRow, Action.bind_of_ok chosen, Action.bind_of_ok counted]
  rfl

end

/-- **Counting in memory succeeds**, if no failure is in store for it. -/
theorem count_of_unplanned {s : RehearsalServices MemoryBuckets}
    (unplanned : ∀ op, s.bucketPlan op = []) (counter : BucketedCounter) (object : String) :
    ∃ s', (bucketIndex counter bucketsPart :
      RevisionIndex (RehearsalServices MemoryBuckets)).count object s = (.ok (), s') := by
  obtain ⟨bucket, x, counted⟩ := addRow_of_unplanned (f := (bucketsPart.get s).1) unplanned counter
    object (bucketsPart.get s).2
  exact ⟨bucketsPart.set x s, count_of_ok counted⟩

end RehearsalServices

end Conveyor
