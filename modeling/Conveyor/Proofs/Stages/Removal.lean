import Conveyor.Proofs.Keeping
import Conveyor.Proofs.Stages.Preparatory
import Conveyor.Proofs.Topology.Way

/-!
# Records that were reported as deleted

A record that was reported as deleted has no content and often lacks the parameters of others.  The
stages look at the report before anything else: such a record passes those that read, check or
index, and is removed by the first that writes or takes down.

* `LibraryStage` — the stages of the library, each with its services and its configuration.
* `run_of_markedDeleted` — what one of them does with such a record.
* `runChain_of_passing` — stages that do not remove it let it through and touch nothing.
* `Removal` and **`removal_of_markedDeleted`** — what becomes of it in any chain of such stages.

The services are arbitrary actions on their state, so where the state is left as it was, none of
them has been called.
-/

namespace Conveyor

/-! ## The stages of the library -/

/-- What a stage of the library does. -/
inductive StageKind where
  | read | validate | index | write | depublish
deriving DecidableEq, Repr

/-- The stages of the library, each with its services and its configuration. -/
inductive LibraryStage (σ : Type) where
  | read (store : ContentStore σ) (policy : RetryPolicy)
  | validate (validator : Validator σ) (policy : RetryPolicy)
  | index (indexer : Indexer σ) (config : IndexingConfig) (policy : RetryPolicy)
  | write (metadata : MetadataService σ) (counted : Option (RevisionIndex σ)) (policy : RetryPolicy)
  | depublish (depublisher : Depublisher σ) (policy : RetryPolicy)

namespace LibraryStage

variable {σ : Type}

def kind : LibraryStage σ → StageKind
  | read .. => .read
  | validate .. => .validate
  | index .. => .index
  | write .. => .write
  | depublish .. => .depublish

def stage [Clock σ] : LibraryStage σ → Stage σ
  | read store policy => readStage store policy
  | validate validator policy => validateStage validator policy
  | index indexer config policy => indexStage indexer config policy
  | write metadata counted policy => writeStage metadata counted policy
  | depublish depublisher policy => depublishStage depublisher policy

/-- Whether a record that was reported as deleted ends at a stage. -/
def removes (l : LibraryStage σ) : Bool := l.kind = .write ∨ l.kind = .depublish

/-- The outcome of a record that was reported as deleted. -/
def fate (l : LibraryStage σ) (e : Envelope) : Outcome :=
  match l.kind with
  | .read => .forward e.located
  | .validate | .index => .forward e
  | .write | .depublish => .dropped e

/-- The state of the services after it: only a depublisher is called. -/
def afterwards (l : LibraryStage σ) (resource : String) (s : σ) : σ :=
  match l with
  | depublish d _ => (d.remove resource s).2
  | _ => s

theorem fate_of_removing {l : LibraryStage σ} (removing : l.removes = true) (e : Envelope) :
    l.fate e = .dropped e := by
  cases l with
  | write metadata counted policy => rfl
  | depublish d policy => rfl
  | _ => cases removing

theorem kind_of_removing {l : LibraryStage σ} (removing : l.removes = true) :
    l.kind = .write ∨ l.kind = .depublish := by
  simpa [removes] using removing

theorem passing_of_not_mem {stages : List (LibraryStage σ)} (unwriting : .write ∉ stages.map kind)
    (sparing : .depublish ∉ stages.map kind) : ∀ l ∈ stages, l.removes = false := by
  intro l mem
  have apart : ∀ k, k ∉ stages.map kind → l.kind ≠ k :=
    fun k none same => none (List.mem_map.2 ⟨l, mem, same⟩)
  simp [removes, apart _ unwriting, apart _ sparing]

theorem not_mem_of_passing {stages : List (LibraryStage σ)}
    (passing : ∀ l ∈ stages, l.removes = false) :
    .write ∉ stages.map kind ∧ .depublish ∉ stages.map kind := by
  constructor
  all_goals
    intro there
    obtain ⟨l, mem, which⟩ := List.mem_map.1 there
    have passes := passing l mem
    simp [removes, which] at passes

end LibraryStage

/-- A depublisher takes down a resource without failing. -/
def Depublisher.Obliges {σ : Type} (d : Depublisher σ) (resource : String) (s : σ) : Prop :=
  (d.remove resource s).1 = .ok ()

/-- What the parts of a locator are called among the parameters of a record. -/
def Locator.parameter? (l : Locator) (key : String) : Option String :=
  if key = Parameter.cloudId then some l.record
  else if key = Parameter.representationName then some l.representation
  else if key = Parameter.representationVersion then some l.version
  else if key = Parameter.fileName then some l.file
  else none

/-! ## The parts of a locator -/

namespace Envelope

variable (e : Envelope)

/-- **A located record** has the parts of its locator as parameters, before those it had. -/
theorem parameter?_located (key : String) :
    e.located.parameter? key
      = ((Locator.parse? e.resource).bind (·.parameter? key)).or (e.parameter? key) := by
  rw [located]
  cases Locator.parse? e.resource with
  | none => rfl
  | some l =>
    simp only [parameter?, withParameter, Dict.get?_insert, Option.bind_some, Locator.parameter?,
      eq_comm (a := key)]
    -- the later of two insertions is looked at first, so the keys have to be told apart
    by_cases file : Parameter.fileName = key
    · subst file
      rfl
    · by_cases version : Parameter.representationVersion = key
      · subst version
        rfl
      · by_cases representation : Parameter.representationName = key
        · subst representation
          rfl
        · by_cases record : Parameter.cloudId = key <;>
            simp [file, version, representation, record]

/-- To locate a record changes nothing but its parameters. -/
theorem located_eq : e.located = { e with parameters := e.located.parameters } := by
  rw [located]
  cases Locator.parse? e.resource <;> rfl

theorem resource_located : e.located.resource = e.resource := by
  rw [located_eq]

/-- A record that has been located stays as it is. -/
theorem located_located : e.located.located = e.located := by
  have parameters : e.located.located.parameters = e.located.parameters := by
    refine Dict.ext_get? fun key => ?_
    have again := e.located.parameter?_located key
    have once := e.parameter?_located key
    rw [resource_located, once] at again
    change e.located.located.parameter? key = e.located.parameter? key
    rw [again, once]
    cases ((Locator.parse? e.resource).bind (·.parameter? key)) <;> rfl
  rw [located_eq e.located, parameters]

/-- A locator does not say whether its record was reported as deleted. -/
theorem isMarkedDeleted_located : e.located.isMarkedDeleted = e.isMarkedDeleted := by
  have unnamed : (Locator.parse? e.resource).bind (·.parameter? Parameter.markedDeleted) = none :=
    Option.bind_eq_none_iff.2 fun l _ => rfl
  rw [isMarkedDeleted, isMarkedDeleted, parameter?_located, unnamed, Option.none_or]

end Envelope

/-! ## Through the stages -/

section

variable {σ : Type} [Clock σ] {e : Envelope}

namespace LibraryStage

/-- **One stage** lets the record through, removes it, or has it taken down first. -/
theorem run_of_markedDeleted (marked : e.isMarkedDeleted = true) (l : LibraryStage σ) {s : σ}
    (obliges : ∀ d policy, l = .depublish d policy → d.Obliges e.resource s) :
    l.stage.run e s = (l.fate e, l.afterwards e.resource s) := by
  cases l with
  | read store policy =>
    have marked : e.located.isMarkedDeleted = true := e.isMarkedDeleted_located.trans marked
    simp [stage, Stage.run, readStage, marked, fate, kind, afterwards]
  | validate validator policy =>
    simp [stage, Stage.run, validateStage, marked, fate, kind, afterwards]
  | index indexer config policy =>
    simp [stage, Stage.run, indexStage, marked, fate, kind, afterwards]
  | write metadata counted policy =>
    simp [stage, Stage.run, writeStage, marked, fate, kind, afterwards]
  | depublish d policy =>
    have removed : d.remove e.resource s = (.ok (), (d.remove e.resource s).2) :=
      Prod.ext (obliges d policy rfl) rfl
    have called := retryingStep_of_ok policy ("Error while depublishing " ++ e.resource) removed
    have processed : (depublishStage d policy).process e s
        = (.ok (.dropped e), (d.remove e.resource s).2) := by
      simp only [depublishStage, Action.bind_of_ok called, Action.pure_apply]
    simp only [stage, Stage.run, processed, fate, kind, afterwards]

/-- A stage that does not remove the record passes it on and touches nothing. -/
theorem run_of_passing (marked : e.isMarkedDeleted = true) {l : LibraryStage σ}
    (passing : l.removes = false) (s : σ) :
    l.stage.run e s = (.forward (if l.kind = .read then e.located else e), s) := by
  rw [run_of_markedDeleted marked l (by rintro d policy rfl; cases passing)]
  cases l with
  | read store policy => rfl
  | validate validator policy => rfl
  | index indexer config policy => rfl
  | write metadata counted policy => cases passing
  | depublish d policy => cases passing

end LibraryStage

open LibraryStage

/-- **Stages that do not remove the record** let it through and touch nothing; it is located if one
of them reads. -/
theorem runChain_of_passing (marked : e.isMarkedDeleted = true) {before : List (LibraryStage σ)}
    (passing : ∀ l ∈ before, l.removes = false) (after : List (Stage σ)) (s : σ) :
    runChain (before.map stage ++ after) e s
      = runChain after (if .read ∈ before.map kind then e.located else e) s := by
  induction before generalizing e with
  | nil => rfl
  | cons l rest ih =>
    have here := run_of_passing marked (passing l List.mem_cons_self) s
    have there := fun l mem => passing l (List.mem_cons_of_mem _ mem)
    rw [List.map_cons, List.cons_append, runChain_of_forward here, List.map_cons]
    by_cases reads : l.kind = .read
    · rw [if_pos reads, ih (e.isMarkedDeleted_located.trans marked) there,
        Envelope.located_located, ite_self, if_pos (reads ▸ List.mem_cons_self)]
    · have apart : (.read ∈ l.kind :: rest.map kind) ↔ .read ∈ rest.map kind := by
        rw [List.mem_cons, or_iff_right fun same => reads same.symm]
      simp only [if_neg reads, ih marked there, apart]

/-- The first stage that removes the record ends its way. -/
theorem runChain_of_removing (marked : e.isMarkedDeleted = true)
    {before after : List (LibraryStage σ)} {l : LibraryStage σ}
    (passing : ∀ l ∈ before, l.removes = false) (removing : l.removes = true) {s : σ}
    (obliges : ∀ d policy, l = .depublish d policy → d.Obliges e.resource s) :
    runChain ((before ++ l :: after).map stage) e s
      = (.dropped e, l.afterwards e.resource s) := by
  have ends : ∀ e' : Envelope, e'.isMarkedDeleted = true → e'.taskId = e.taskId →
      e'.resource = e.resource →
      runChain ((l :: after).map stage) e' s = (.dropped e, l.afterwards e.resource s) := by
    intro e' marked' task resource
    have run := run_of_markedDeleted marked' l (resource ▸ obliges)
    rw [fate_of_removing removing, Outcome.dropped, task, resource] at run
    rw [List.map_cons]
    exact runChain_of_leaves run fun e'' same => by cases same
  rw [List.map_append, runChain_of_passing marked passing]
  -- where it ends, it is the same record, located or not
  split
  · exact ends _ (e.isMarkedDeleted_located.trans marked) e.taskId_located e.resource_located
  · exact ends _ marked rfl rfl

/-! ## The whole chain -/

/-- What becomes of a record that was reported as deleted in a chain of stages of the library, and
of the state of their services. -/
structure Removal (stages : List (LibraryStage σ)) (e : Envelope) (s : σ)
    (run : Outcome × σ) : Prop where
  /-- It is removed if a stage writes or takes down. -/
  removed : .write ∈ stages.map kind ∨ .depublish ∈ stages.map kind →
    run.1 = .drop e.taskId e.resource
  /-- Else it is forwarded, as it is if no stage reads. -/
  unread : .write ∉ stages.map kind → .depublish ∉ stages.map kind → .read ∉ stages.map kind →
    run.1 = .forward e
  /-- A stage that reads adds the parts of its locator, if its resource is one. -/
  located : .write ∉ stages.map kind → .depublish ∉ stages.map kind → .read ∈ stages.map kind →
    ∃ parameters, run.1 = .forward { e with parameters := parameters } ∧
      ∀ key, parameters.get? key
        = ((Locator.parse? e.resource).bind (·.parameter? key)).or (e.parameter? key)
  /-- It never fails. -/
  unfailed : ∀ err, run.1 ≠ .error err
  /-- The first stage to take down its records takes it down, if none writes before; nothing else
  happens. -/
  takenDown : ∀ before d policy after, stages = before ++ .depublish d policy :: after →
    .write ∉ before.map kind → .depublish ∉ before.map kind →
    run.2 = (d.remove e.resource s).2
  /-- Without such a stage nothing happens at all. -/
  untouched : (∀ before d policy after, stages = before ++ .depublish d policy :: after →
    .write ∈ before.map kind) → run.2 = s

/-- Where no stage removes the record, it goes through. -/
theorem removal_of_passing (marked : e.isMarkedDeleted = true) {stages : List (LibraryStage σ)}
    (passing : ∀ l ∈ stages, l.removes = false) (s : σ) :
    Removal stages e s (runChain (stages.map stage) e s) := by
  obtain ⟨unwriting, sparing⟩ := not_mem_of_passing passing
  have run := runChain_of_passing marked passing [] s
  rw [List.append_nil, runChain] at run
  rw [run]
  constructor
  case removed => exact fun removes => absurd removes (not_or.2 ⟨unwriting, sparing⟩)
  case unread => exact fun _ _ unread => by rw [if_neg unread]
  case located =>
    intro _ _ read
    refine ⟨e.located.parameters, ?_, e.parameter?_located⟩
    rw [if_pos read]
    exact congrArg Outcome.forward e.located_eq
  case unfailed => exact fun err same => by cases same
  case takenDown =>
    rintro before d policy after rfl
    exact absurd (List.mem_map_of_mem (List.mem_append_right _ List.mem_cons_self)) sparing
  case untouched => exact fun _ => rfl

/-- Where a stage removes the record, the first of them does. -/
theorem removal_of_removing (marked : e.isMarkedDeleted = true)
    {before after : List (LibraryStage σ)} {l : LibraryStage σ}
    (passing : ∀ l ∈ before, l.removes = false) (removing : l.removes = true) {s : σ}
    (obliges : ∀ d policy, .depublish d policy ∈ before ++ l :: after → d.Obliges e.resource s) :
    Removal (before ++ l :: after) e s (runChain ((before ++ l :: after).map stage) e s) := by
  have there : l.kind ∈ (before ++ l :: after).map kind :=
    List.mem_map_of_mem (List.mem_append_right _ List.mem_cons_self)
  have removes := kind_of_removing removing
  have run : runChain ((before ++ l :: after).map stage) e s
      = (.dropped e, l.afterwards e.resource s) :=
    runChain_of_removing marked passing removing fun d policy same =>
      obliges d policy (same ▸ List.mem_append_right _ List.mem_cons_self)
  have kept : .write ∉ (before ++ l :: after).map kind →
      .depublish ∉ (before ++ l :: after).map kind → False := by
    intro unwriting sparing
    rcases removes with writes | takes
    · exact unwriting (writes ▸ there)
    · exact sparing (takes ▸ there)
  constructor
  case removed => exact fun _ => by rw [run]; rfl
  case unread => exact fun unwriting sparing _ => (kept unwriting sparing).elim
  case located => exact fun unwriting sparing _ => (kept unwriting sparing).elim
  case unfailed =>
    intro err same
    rw [run] at same
    cases same
  case takenDown =>
    intro before' d policy after' split unwriting sparing
    rw [split]
    rw [split] at obliges
    rw [runChain_of_removing marked (passing_of_not_mem unwriting sparing) rfl
      fun d' policy' same =>
        obliges d' policy' (same ▸ List.mem_append_right _ List.mem_cons_self), afterwards]
  case untouched =>
    intro guarded
    rw [run]
    cases l with
    | depublish d policy =>
      exact absurd (guarded before d policy after rfl) (not_mem_of_passing passing).1
    | _ => rfl

/-- **A record that was reported as deleted** passes any chain of stages of the library: it is
removed if one of them writes or takes down, and forwarded otherwise, whatever else is said about it
and whether or not it has content. -/
theorem removal_of_markedDeleted {stages : List (LibraryStage σ)} {e : Envelope} {mark : String}
    {s : σ} (given : e.parameter? Parameter.markedDeleted = some mark)
    (reported : mark.toList.map Char.toLower = "true".toList)
    (obliges : ∀ d policy, .depublish d policy ∈ stages → d.Obliges e.resource s) :
    Removal stages e s (runChain (stages.map stage) e s) ∧
      ∀ t : Topology σ, t.stages = stages.map stage → Removal stages e s (t.runRecord e s) := by
  have marked : e.isMarkedDeleted = true := by
    simp [Envelope.isMarkedDeleted, given, reported]
  have main : Removal stages e s (runChain (stages.map stage) e s) := by
    cases found : stages.find? removes with
    | none => exact removal_of_passing marked (by simpa using found) s
    | some l =>
      obtain ⟨removing, before, after, rfl, passing⟩ := List.find?_eq_some_iff_append.1 found
      exact removal_of_removing marked (by simpa using passing) removing obliges
  exact ⟨main, fun t built => by rw [Topology.runRecord, built]; exact main⟩

end

/-! ## A record that is taken down -/

namespace RehearsalServices

open Rehearsal

/-- Stages that would read and write a record and take it down in between. -/
def withdrawal : List (LibraryStage (RehearsalServices MemoryBuckets)) :=
  [.read (Exchange.contentStore exchangePart) .none,
    .depublish (Exchange.depublisher exchangePart) .none,
    .write (Exchange.metadata exchangePart) none .none]

def shelfDeletion : Envelope := shelfRecord.withParameter Parameter.markedDeleted "True"

theorem removal_shelfDeletion :
    shelfDeletion.parameter? Parameter.markedDeleted = some "True" ∧
    (∀ d policy, .depublish d policy ∈ withdrawal →
      d.Obliges shelfDeletion.resource (shelfServices [])) ∧
    (runChain (withdrawal.map LibraryStage.stage) shelfDeletion (shelfServices [])).1
      = .drop ⟨1⟩ shelfRecord.resource ∧
    (exchangePart.get
      (runChain (withdrawal.map LibraryStage.stage) shelfDeletion (shelfServices [])).2).journal
      = [.depublish shelfRecord.resource] := by
  have given : shelfDeletion.parameter? Parameter.markedDeleted = some "True" := by decide +kernel
  have obliges : ∀ d policy, .depublish d policy ∈ withdrawal →
      d.Obliges shelfDeletion.resource (shelfServices []) := by
    intro d policy mem
    obtain ⟨rfl, -⟩ : d = Exchange.depublisher exchangePart ∧ policy = .none := by
      simpa [withdrawal] using mem
    rfl
  obtain ⟨removal, -⟩ := removal_of_markedDeleted given (by decide) obliges
  refine ⟨given, obliges, removal.removed (.inr (by decide)), ?_⟩
  rw [removal.takenDown [_] _ _ [_] rfl (by decide) (by decide)]
  rfl

end RehearsalServices

end Conveyor
