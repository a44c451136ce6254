import Conveyor.Proofs.Keeping
import Conveyor.Proofs.Submission.Publication

/-!
# Submissions that build on an earlier task

A task of a chained topology is told what to expect before its own records are looked up: as many
as the task before it forwarded.  How many are then published does not enter into it.

* `expectedFromPrevious_of_known`, `expectedFromPrevious_of_unknown` — the look-up of the task
  before.
* **`submit_of_chained`** — the submission of a task which builds on a known one.
-/

namespace Conveyor.Submitter

variable {V : Type} [Clock V] {s : Submitter V} {task : Task} {topology : Topology V}
  {p : MemoryPlant V} {previous : TaskId} {t : TaskInfo}

theorem expectedFromPrevious_of_known (names : task.previous? = some previous)
    (known : p.progress previous = some t) :
    s.expectedFromPrevious task p = (.ok t.forwarded, p) := by
  have look : ((Plant.onTracker (Tracker.find previous)).mapError StoreError.toStepError :
      Action (MemoryPlant V) StepError (Option TaskInfo)) p = (.ok (some t), p) := by
    rw [← known]
    rfl
  rw [expectedFromPrevious, names]
  simp only
  rw [Action.bind_of_ok (Action.mapError_of_ok _ (retrying_of_ok s.policy _ look))]
  rfl

/-- What a task can expect of another one that is not known, or that it does not name. -/
theorem expectedFromPrevious_of_unknown
    (unknown : ∀ previous, task.previous? = some previous → p.progress previous = none) :
    s.expectedFromPrevious task p = (.ok unknownCount, p) := by
  rw [expectedFromPrevious]
  cases names : task.previous? with
  | none => rfl
  | some previous =>
    have look : ((Plant.onTracker (Tracker.find previous)).mapError StoreError.toStepError :
        Action (MemoryPlant V) StepError (Option TaskInfo)) p = (.ok none, p) := by
      rw [← unknown previous names]
      rfl
    simp only
    rw [Action.bind_of_ok (Action.mapError_of_ok _ (retrying_of_ok s.policy _ look))]
    rfl

/-- **A task that builds on another** expects what that forwarded, however many records are
published for it. -/
theorem submit_of_chained (found : s.topologies.get? task.topology = some topology)
    (chained : topology.chained = true) (names : task.previous? = some previous)
    (known : p.progress previous = some t) (counted : t.forwarded ≠ unknownCount)
    (free : task.restart = true ∨ p.progress task.id = none) {records : List SourceRecord}
    {services : V} (told : (s.source task).tell p.services = ⟨records, services, none⟩) :
    ∃ p', s.submit task p
      = (.ok ⟨task.id, topology.entryTopic, records.length, t.forwarded⟩, p') :=
  have looked : s.look topology task p = (.ok t.forwarded, p) := by
    rw [look, if_pos chained, expectedFromPrevious_of_known names known]
  ⟨_, submit_of_expecting found looked free told (if_neg counted).symm⟩

end Conveyor.Submitter
