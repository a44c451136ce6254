import Conveyor.Proofs.Stages.Identity
import Conveyor.Proofs.Stages.Write
import Conveyor.Proofs.Topology.Way

/-!
# Stages before a write

Stages that read, check, index or take down a record neither touch the archive nor change where the
record goes to: the provider, dataset, representation and revision that it is written under.

* `Bound` — outcomes that are about the task of a record and let it go where it goes to.
* `Stage.Preparatory` — stages with such outcomes only, which leave the archive alone.
* **`preparatory_stage`** — all stages are, but for those that write and those that are scripted.
* `bound_writeStage` — a stage that writes has such outcomes too.
-/

namespace Conveyor

open Rehearsal RehearsalServices

/-- An outcome that is about the task of a record and, if the record is forwarded, lets it go where
it goes to. -/
def Bound (e : Envelope) (outcome : Outcome) : Prop :=
  outcome.task = e.taskId ∧ ∀ e', outcome = .forward e' → ∀ query, e.GoesTo query → e'.GoesTo query

/-- The parameters that stages touch do not say where a record goes to. -/
theorem Envelope.SameRecord.goesTo {e e' : Envelope} (h : e.SameRecord e') {query : DatasetInput}
    (goes : e.GoesTo query) : e'.GoesTo query := by
  rwa [GoesTo, h.parameters Parameter.providerId (by decide),
    h.parameters Parameter.outputDataset (by decide),
    h.parameters Parameter.newRepresentationName (by decide), h.revision]

/-- An outcome that is about a record leaves it where it goes to. -/
theorem bound_of_about {e : Envelope} {outcome : Outcome} (about : outcome.About e) :
    Bound e outcome := by
  refine ⟨about.task, fun e' forwarded query => ?_⟩
  subst forwarded
  exact Envelope.SameRecord.goesTo about

/-- A stage that leaves the archive alone and lets records go where they go to. -/
structure Stage.Preparatory {B : Type} (stage : Stage (RehearsalServices B)) : Prop where
  archive : ∀ e, LeavesArchive (stage.process e)
  bound : ∀ e, (stage.process e).Answers (Bound e)

theorem Stage.bound_run {V : Type} {stage : Stage V}
    (bound : ∀ e, (stage.process e).Answers (Bound e)) (e : Envelope) (s : V) :
    Bound e (stage.run e s).1 :=
  Stage.of_answers (bound e) (fun _ => bound_of_about (about_failed e _ _)) s

namespace Stage.Preparatory

variable {B : Type} {stage : Stage (RehearsalServices B)}

theorem beside_run (h : stage.Preparatory) (e : Envelope) {s : RehearsalServices B}
    (inOrder : s.InOrder) : Beside s (stage.run e s).2 := by
  have beside := (h.archive e).beside inOrder
  rw [Stage.run]
  cases processed : stage.process e s with
  | mk answer s' =>
    rw [processed] at beside
    cases answer <;> exact beside

end Stage.Preparatory

/-! ## The stages -/

section

variable {B : Type} (policy : RetryPolicy)

theorem bound_writeStage (metadata : MetadataService (RehearsalServices B))
    (index : Option (RevisionIndex (RehearsalServices B))) (e : Envelope) :
    ((writeStage metadata index policy).process e).Answers (Bound e) :=
  (about_writeStage policy metadata index e).mono fun _ => bound_of_about

/-- **All stages prepare for a write**, but for those that write and those that are scripted. -/
theorem preparatory_stage [BucketStore B] (f : Fittings) {plan : StagePlan}
    (unwriting : ∀ counted, plan ≠ .write counted)
    (unscripted : ∀ name rules, plan ≠ .script name rules) :
    (f.stage plan : Stage (RehearsalServices B)).Preparatory := by
  refine ⟨leavesArchive_stage f unwriting, fun e => .mono ?_ fun _ => bound_of_about⟩
  cases plan with
  | read fromArchive => cases fromArchive <;> exact about_readStage f.policy _ e
  | validate => exact about_validateStage f.policy _ e
  | write counted => exact absurd rfl (unwriting counted)
  | index => exact about_indexStage f.policy _ f.indexing e
  | depublish => exact about_depublishStage f.policy _ e
  | script name rules => exact absurd rfl (unscripted name rules)

end

end Conveyor
