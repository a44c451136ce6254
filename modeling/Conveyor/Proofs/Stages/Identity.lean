import Conveyor.Proofs.Keeping
import Conveyor.Proofs.Stages.Requirements
import Conveyor.Proofs.Topology.Way
import Conveyor.Stages.Depublish
import Conveyor.Stages.Index
import Conveyor.Stages.Read
import Conveyor.Stages.Validate

/-!
# The identity of a record

A record that goes from stage to stage is changed on its way: it gets content and loses it, and
parameters come and go that say where it was read from and written to.  All else stays, in
particular whatever tells which record it is, which task it belongs to and on which partition it
travels; and if it does not go on, what is reported is about this record.

* `Envelope.SameRecord` — two envelopes of one record; `SameRecord.routingKey` says that they are
  routed by the same key.
* `Outcome.About` — an outcome that is about a record.
* **`about_readStage`**, `about_validateStage`, `about_indexStage`, `about_writeStage`,
  `about_depublishStage` — every outcome of a stage is about the record that it was given.
* `Stage.about_run` — then that of a call which failed is, too.
-/

namespace Conveyor

/-- The parameters that say where a record was read from, and where it was written to. -/
def Parameter.places : List String := outputUrl :: transient

namespace Envelope

/-- Two envelopes of one record: they tell the same of the record and of its task, but for its
content and for the parameters that say where it is. -/
structure SameRecord (e e' : Envelope) : Prop where
  taskId : e'.taskId = e.taskId
  taskName : e'.taskName = e.taskName
  resource : e'.resource = e.resource
  revision : e'.revision = e.revision
  harvest : e'.harvest = e.harvest
  parameters : ∀ key ∉ Parameter.places, e'.parameter? key = e.parameter? key

namespace SameRecord

variable {e e' e'' : Envelope}

protected theorem refl (e : Envelope) : e.SameRecord e := ⟨rfl, rfl, rfl, rfl, rfl, fun _ _ => rfl⟩

theorem trans (h : e.SameRecord e') (h' : e'.SameRecord e'') : e.SameRecord e'' where
  taskId := h'.taskId.trans h.taskId
  taskName := h'.taskName.trans h.taskName
  resource := h'.resource.trans h.resource
  revision := h'.revision.trans h.revision
  harvest := h'.harvest.trans h.harvest
  parameters key other := (h'.parameters key other).trans (h.parameters key other)

theorem withParameter (h : e.SameRecord e') {key : String} (place : key ∈ Parameter.places)
    (value : String) : e.SameRecord (e'.withParameter key value) where
  taskId := h.taskId
  taskName := h.taskName
  resource := h.resource
  revision := h.revision
  harvest := h.harvest
  parameters k other := by
    have apart : key ≠ k := fun same => other (same ▸ place)
    rw [← h.parameters k other, parameter?, Envelope.withParameter, Dict.get?_insert, if_neg apart]
    rfl

/-- The content of a record does not tell which one it is. -/
theorem withPayload (h : e.SameRecord e') (payload : Bytes) :
    e.SameRecord (e'.withPayload payload) :=
  ⟨h.taskId, h.taskName, h.resource, h.revision, h.harvest, h.parameters⟩

/-- **One record has one routing key**, since its stages do not touch that parameter. -/
theorem routingKey (h : e.SameRecord e') : e'.routingKey = e.routingKey := by
  rw [Envelope.routingKey, Envelope.routingKey, h.resource,
    h.parameters Parameter.routingKey (by decide)]

end SameRecord

theorem sameRecord_located (e : Envelope) : e.SameRecord e.located := by
  rw [located]
  cases Locator.parse? e.resource with
  | none => exact .refl e
  | some l =>
    refine .withParameter (.withParameter (.withParameter (.withParameter (.refl e) ?_ _) ?_ _)
      ?_ _) ?_ _ <;> decide

theorem taskId_located (e : Envelope) : e.located.taskId = e.taskId := e.sameRecord_located.taskId

theorem sameRecord_written (e : Envelope) (url : String) : e.SameRecord (e.written url) := by
  rw [written_eq]
  refine ⟨rfl, rfl, rfl, rfl, rfl, fun key other => ?_⟩
  rw [Parameter.places, List.mem_cons, not_or] at other
  have parameters := e.parameters_written url key
  rwa [if_neg other.1, if_neg other.2] at parameters

end Envelope

/-! ## Outcomes -/

/-- An outcome that is about a record: it is forwarded as the same record, or what is reported is
reported of its task and its resource. -/
def Outcome.About (e : Envelope) : Outcome → Prop
  | .forward e' => e.SameRecord e'
  | .error err => err.taskId = e.taskId ∧ err.resource = e.resource
  | .drop id resource => id = e.taskId ∧ resource = e.resource

section

variable {e e' : Envelope} {outcome : Outcome}

theorem about_failed (e : Envelope) (message details : String) :
    (Outcome.failed e message details).About e := ⟨rfl, rfl⟩

theorem about_dropped (e : Envelope) : (Outcome.dropped e).About e := ⟨rfl, rfl⟩

theorem Outcome.About.task (h : outcome.About e) : outcome.task = e.taskId := by
  cases outcome with
  | forward e' => exact Envelope.SameRecord.taskId h
  | error err => exact h.1
  | drop id resource => exact h.1

/-- What is about a record in one envelope is about it in another. -/
theorem Outcome.About.of_sameRecord (h : outcome.About e') (same : e.SameRecord e') :
    outcome.About e := by
  cases outcome with
  | forward e'' => exact same.trans h
  | error err => exact ⟨h.1.trans same.taskId, h.2.trans same.resource⟩
  | drop id resource => exact ⟨h.1.trans same.taskId, h.2.trans same.resource⟩

/-- What all outcomes of a stage are like, and the error that is made of a failed call, what becomes
of the record is like. -/
theorem Stage.of_answers {V : Type} {stage : Stage V} {P : Outcome → Prop}
    (answers : (stage.process e).Answers P) (failed : ∀ err, P (.ofStepError e err)) (s : V) :
    P (stage.run e s).1 := by
  rw [Stage.run]
  cases processed : stage.process e s with
  | mk answer s' =>
    cases answer with
    | ok outcome => exact answers s outcome (by rw [processed])
    | error err => exact failed err

/-- **A failed call is the error of its record**, so if all outcomes of a stage are about the
record, what becomes of the record is. -/
theorem Stage.about_run {V : Type} {stage : Stage V}
    (about : ∀ e, (stage.process e).Answers (Outcome.About e)) (e : Envelope) (s : V) :
    (stage.run e s).1.About e :=
  Stage.of_answers (about e) (fun _ => about_failed e _ _) s

end

/-! ## The stages -/

section

variable {σ : Type} [Clock σ] (policy : RetryPolicy)

theorem about_readStage (store : ContentStore σ) (e : Envelope) :
    ((readStage store policy).process e).Answers (Outcome.About e) := by
  have located := e.sameRecord_located
  simp only [readStage]
  split
  · exact Action.answers_pure located
  · exact Action.Answers.bind fun content => Action.answers_pure (located.withPayload content)

theorem about_validateStage (validator : Validator σ) (e : Envelope) :
    ((validateStage validator policy).process e).Answers (Outcome.About e) := by
  simp only [validateStage]
  split
  · exact Action.answers_pure (.refl e)
  · split
    · exact Action.answers_pure (about_failed e _ _)
    · exact Action.answers_pure (about_failed e _ _)
    · refine Action.Answers.bind fun verdict => ?_
      cases verdict with
      | valid => exact Action.answers_pure (.refl e)
      | invalid message details => exact Action.answers_pure (about_failed e _ _)

theorem about_indexStage (indexer : Indexer σ) (config : IndexingConfig) (e : Envelope) :
    ((indexStage indexer config policy).process e).Answers (Outcome.About e) := by
  simp only [indexStage]
  split
  · exact Action.answers_pure (.refl e)
  · split
    · exact Action.answers_pure (about_failed e _ _)
    · split
      · exact Action.answers_pure (about_failed e _ _)
      · refine Action.Answers.bind fun now => ?_
        split
        · exact Action.answers_pure (about_failed e _ _)
        · exact Action.answers_pure (about_failed e _ _)
        · exact Action.Answers.bind fun _ => Action.answers_pure (.refl e)

theorem about_writeStage (metadata : MetadataService σ) (index : Option (RevisionIndex σ))
    (e : Envelope) : ((writeStage metadata index policy).process e).Answers (Outcome.About e) := by
  simp only [writeStage]
  split
  · exact Action.answers_pure (about_dropped e)
  · split
    · exact Action.answers_pure (about_failed e _ _)
    · exact Action.Answers.bind fun url => Action.Answers.bind fun _ =>
        Action.answers_pure (e.sameRecord_written url)

theorem about_depublishStage (depublisher : Depublisher σ) (e : Envelope) :
    ((depublishStage depublisher policy).process e).Answers (Outcome.About e) :=
  Action.Answers.bind fun _ => Action.answers_pure (about_dropped e)

end

end Conveyor
