import Conveyor.Proofs.Keeping
import Conveyor.Rehearsal.Plant

/-!
# The archive among other services

The services of a rehearsal are one state, of which the archive is a part.  Its own calls aside,
nothing changes what the archive holds: stages that read, validate, index or take records out of
publication leave it alone, and so does counting, which draws names from the same supply but takes
none back.

* `RehearsalServices.InOrder` — services on their own whose archive fails no call.
* `RehearsalServices.Beside` — what else may have changed; `LeavesArchive` — actions that change
  nothing but that.
* `leavesArchive_call`, `leavesArchive_retrying` — calls of other services.
* `create_of_unplanned`, `list_of_inOrder`, `fetch_of_inOrder` — calls of the archive itself.
* **`leavesArchive_stage`** — all stages that do not write leave the archive alone.
-/

namespace Conveyor

open Rehearsal

namespace RehearsalServices

variable {B : Type}

def archive (s : RehearsalServices B) : Archive := s.inner.depot.store.archive

/-- Where the names of versions and buckets come from. -/
def names (s : RehearsalServices B) : IdSource := s.inner.depot.store.ids

/-- The failures in store for the calls of the bucket store. -/
def bucketPlan (s : RehearsalServices B) : BucketOp → List (Option (Fault StoreError)) :=
  s.inner.depot.store.buckets.plan

/-- Services on their own, with no failure in store for the calls of the archive and no listing
prepared. -/
structure InOrder (s : RehearsalServices B) : Prop where
  alone : s.company = .alone
  create : s.inner.depot.plan .create = []
  list : s.inner.depot.plan .list = []
  fetch : s.inner.depot.plan .fetch = []
  pages : s.inner.depot.store.pages = []

/-- Services in order that hold the same archive.  They may have drawn further names and used up
failures, but none are in store for the bucket store where there were none. -/
structure Beside (s s' : RehearsalServices B) : Prop where
  inOrder : s'.InOrder
  archive : s'.archive = s.archive
  name : s'.names.name = s.names.name
  drawn : s.names.drawn ≤ s'.names.drawn
  unplanned : ∀ op, s.bucketPlan op = [] → s'.bucketPlan op = []

namespace Beside

variable {s s' s'' : RehearsalServices B}

theorem refl (h : s.InOrder) : Beside s s := ⟨h, rfl, rfl, Nat.le_refl _, fun _ none => none⟩

theorem trans (h : Beside s s') (h' : Beside s' s'') : Beside s s'' where
  inOrder := h'.inOrder
  archive := h'.archive.trans h.archive
  name := h'.name.trans h.name
  drawn := Nat.le_trans h.drawn h'.drawn
  unplanned op none := h'.unplanned op (h.unplanned op none)

/-- A sleep changes nothing but the time. -/
theorem sleep (h : Beside s s') (delay : Millis) : Beside s (Clock.sleep delay s') := by
  have slept : Clock.sleep delay s' = s'.setClock (s'.elapsed + sleepTime delay) :=
    Timed.sleep_of_alone h.inOrder.alone delay
  obtain ⟨alone, create, list, fetch, pages⟩ := h.inOrder
  rw [slept]
  exact ⟨⟨alone, create, list, fetch, pages⟩, h.archive, h.name, h.drawn, h.unplanned⟩

end Beside

/-- An action that leaves the archive alone, whatever it does otherwise. -/
def LeavesArchive {ε α : Type} (x : Action (RehearsalServices B) ε α) : Prop :=
  ∀ s, x.Keeps (Beside s)

theorem LeavesArchive.beside {ε α : Type} {x : Action (RehearsalServices B) ε α}
    (h : LeavesArchive x) {s : RehearsalServices B} (inOrder : s.InOrder) : Beside s (x s).2 :=
  h s s (.refl inOrder)

/-! ## Calls of other services -/

section

variable {α : Type} {call : Action (RehearsalServices B) StepError α}

theorem leavesArchive_retrying (h : LeavesArchive call) (policy : RetryPolicy)
    (purpose : String) : LeavesArchive (retryingStep policy purpose call) := fun s =>
  (h s).retryingStep (fun _ delay so_far => so_far.sleep delay) policy purpose

/-- **A call of another service** leaves the archive alone, whether or not it fails. -/
theorem leavesArchive_call {entry : ServiceCall}
    {action : Action (Depot (Faulty BucketOp StoreError B)) StepError α}
    (keeps : ∀ d₀ : Depot (Faulty BucketOp StoreError B), action.Keeps fun d =>
      d.archive = d₀.archive ∧ d.ids = d₀.ids ∧ d.pages = d₀.pages ∧ d.buckets = d₀.buckets) :
    LeavesArchive ((Exchange.call entry action).on exchangePart) := by
  intro s₀ s h
  obtain ⟨fault, plan, run, unplanned⟩ := Faulty.call_eq entry.op action s.inner.depot
  obtain ⟨archive, ids, pages, buckets⟩ :=
    (keeps s.inner.depot.store).obey fault s.inner.depot.store ⟨rfl, rfl, rfl, rfl⟩
  have after : (((Exchange.call entry action).on exchangePart) s).2
      = { s with inner := { s.inner with
          journal := entry :: s.inner.journal
          depot := (Faulty.call entry.op action s.inner.depot).2 } } := rfl
  obtain ⟨alone, create, list, fetch, prepared⟩ := h.inOrder
  rw [after, run]
  exact ⟨⟨alone, unplanned _ create, unplanned _ list, unplanned _ fetch, pages.trans prepared⟩,
    archive.trans h.archive, (congrArg IdSource.name ids).trans h.name,
    Nat.le_trans h.drawn (Nat.le_of_eq (congrArg IdSource.drawn ids).symm),
    fun op none => (congrArg (Faulty.plan · op) buckets).trans (h.unplanned op none)⟩

end

/-! ## Calls of the archive -/

/-- The services once a version was stored under the next name. -/
def created (v : NewVersion) (s : RehearsalServices B) : RehearsalServices B :=
  { s with inner := { s.inner with
    journal := .create v :: s.inner.journal
    depot := { s.inner.depot with store := { s.inner.depot.store with
      archive := (Archive.create v (s.archive, s.names)).2.1
      ids := s.names.draw } } } }

/-- **A version is stored** in the archive, under the next name, unless that is planned to fail. -/
theorem create_of_unplanned {s : RehearsalServices B} (h : s.inner.depot.plan .create = [])
    (v : NewVersion) : (Exchange.metadata exchangePart).create v s
      = (.ok (s.archive.addressOf v s.names.next), s.created v) := by
  have run : (Exchange.metadata exchangePart).create v s
      = ((Faulty.call ServiceOp.create (Depot.create v) s.inner.depot).1,
        { s with inner := { s.inner with
          journal := .create v :: s.inner.journal
          depot := (Faulty.call ServiceOp.create (Depot.create v) s.inner.depot).2 } }) := rfl
  rw [Faulty.call_of_plan_eq_nil h] at run
  exact run

section

variable {s : RehearsalServices B} (h : s.InOrder)

include h

/-- **A version is stored** by services in order. -/
theorem create_of_inOrder (v : NewVersion) : ∃ s' : RehearsalServices B,
    (Exchange.metadata exchangePart).create v s
      = (.ok (s.archive.addressOf v s.names.next), s') ∧
    s'.InOrder ∧ s'.archive = (Archive.create v (s.archive, s.names)).2.1 ∧
    s'.names = s.names.draw ∧ s'.bucketPlan = s.bucketPlan := by
  obtain ⟨alone, create, list, fetch, prepared⟩ := h
  exact ⟨s.created v, create_of_unplanned create v, ⟨alone, create, list, fetch, prepared⟩, rfl,
    rfl, rfl⟩

/-- **A listing** is a page of the archive. -/
theorem list_of_inOrder (query : DatasetInput) (token : Option String) :
    ∃ s', (Exchange.metadata exchangePart).list query token s
      = (s.archive.page query token, s') ∧ Beside s s' := by
  have run : (Exchange.metadata exchangePart).list query token s
      = ((Faulty.call ServiceOp.list (Depot.list query token) s.inner.depot).1,
        { s with inner := { s.inner with
          journal := .list query token :: s.inner.journal
          depot := (Faulty.call ServiceOp.list (Depot.list query token) s.inner.depot).2 } }) := rfl
  have unprepared : Depot.list query token s.inner.depot.store
      = (s.archive.page query token, s.inner.depot.store) := by
    rw [Depot.list, h.pages]
    rfl
  rw [Faulty.call_of_plan_eq_nil h.list, Action.on_apply] at run
  have stored : Faulty.storePart.get s.inner.depot = s.inner.depot.store := rfl
  rw [stored, unprepared] at run
  obtain ⟨alone, create, list, fetch, prepared⟩ := h
  exact ⟨_, run, ⟨alone, create, list, fetch, prepared⟩, rfl, rfl, Nat.le_refl _,
    fun _ none => none⟩

theorem fetch_of_inOrder (url : String) (authorization : Option String) :
    ((Exchange.archiveStore exchangePart).read url authorization s).1 = s.archive.read url := by
  have run : ((Exchange.archiveStore exchangePart).read url authorization s).1
      = (Faulty.call ServiceOp.fetch (Depot.fetch url) s.inner.depot).1 := rfl
  rw [run, Faulty.call_of_plan_eq_nil h.fetch]
  rfl

theorem horizon_of_inOrder :
    (Exchange.metadata exchangePart).horizon s = s.archive.listed.length + 1 := by
  show s.inner.depot.store.pages.length + s.archive.listed.length + 1 = _
  rw [h.pages, List.length_nil, Nat.zero_add]

end

/-! ## Stages -/

section

variable (policy : RetryPolicy)

theorem leavesArchive_read {store : ContentStore (RehearsalServices B)}
    (reads : ∀ resource authorization, LeavesArchive (store.read resource authorization))
    (e : Envelope) : LeavesArchive ((readStage store policy).process e) := by
  intro s
  simp only [readStage]
  split
  · exact Action.keeps_pure _
  · exact (leavesArchive_retrying (reads _ _) _ _ s).bind fun _ => Action.keeps_pure _

theorem leavesArchive_validate (e : Envelope) :
    LeavesArchive ((validateStage (Exchange.validator exchangePart :
      Validator (RehearsalServices B)) policy).process e) := by
  intro s
  simp only [validateStage]
  split
  · exact Action.keeps_pure _
  · split
    · exact Action.keeps_pure _
    · exact Action.keeps_pure _
    · refine (leavesArchive_retrying (leavesArchive_call fun _ => Action.keeps_ofExcept _) _ _
        s).bind fun verdict => ?_
      cases verdict <;> exact Action.keeps_pure _

theorem leavesArchive_index (config : IndexingConfig) (e : Envelope) :
    LeavesArchive ((indexStage (Exchange.indexer exchangePart :
      Indexer (RehearsalServices B)) config policy).process e) := by
  intro s
  simp only [indexStage]
  split
  · exact Action.keeps_pure _
  · split
    · exact Action.keeps_pure _
    · split
      · exact Action.keeps_pure _
      · refine Action.Keeps.bind (Action.keeps_gets _) fun now => ?_
        split
        · exact Action.keeps_pure _
        · exact Action.keeps_pure _
        · exact (leavesArchive_retrying (leavesArchive_call fun _ _ h => h) _ _ s).bind fun _ =>
            Action.keeps_pure _

theorem leavesArchive_depublish (e : Envelope) :
    LeavesArchive ((depublishStage (Exchange.depublisher exchangePart :
      Depublisher (RehearsalServices B)) policy).process e) := fun s =>
  (leavesArchive_retrying (leavesArchive_call fun _ _ h => h) _ _ s).bind fun _ =>
    Action.keeps_pure _

theorem leavesArchive_script (name : String) (rules : List Rule) (e : Envelope) :
    LeavesArchive ((scriptedStage (exchangePart.comp Exchange.appliedPart :
      Part (RehearsalServices B) _) name rules).process e) := by
  intro s
  refine Action.Keeps.bind (Action.keeps_gets _) fun applied => ?_
  split
  · exact Action.keeps_pure _
  · refine Action.Keeps.bind (fun _ h => ?_) fun _ => Action.keeps_ofExcept _
    obtain ⟨alone, create, list, fetch, prepared⟩ := h.inOrder
    exact ⟨⟨alone, create, list, fetch, prepared⟩, h.archive, h.name, h.drawn, h.unplanned⟩

/-- **Stages that do not write** leave the archive alone. -/
theorem leavesArchive_stage [BucketStore B] (f : Fittings) {plan : StagePlan}
    (reads : ∀ counted, plan ≠ .write counted) (e : Envelope) :
    LeavesArchive ((f.stage plan : Stage (RehearsalServices B)).process e) := by
  cases plan with
  | read fromArchive =>
    cases fromArchive with
    | true => exact leavesArchive_read f.policy (fun _ _ => leavesArchive_call fun _ _ h => h) e
    | false => exact leavesArchive_read f.policy (fun _ _ => leavesArchive_call fun _ _ h => h) e
  | validate => exact leavesArchive_validate f.policy e
  | write counted => exact absurd rfl (reads counted)
  | index => exact leavesArchive_index f.policy f.indexing e
  | depublish => exact leavesArchive_depublish f.policy e
  | script name rules => exact leavesArchive_script name rules e

end

end RehearsalServices

end Conveyor
