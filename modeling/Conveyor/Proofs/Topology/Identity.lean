import Conveyor.Proofs.Runner.KeyOrder
import Conveyor.Proofs.Stages.Identity
import Conveyor.Proofs.Stages.Removal

/-!
# One record all the way

Whatever stages of the library a record goes through, and whatever their services answer or fail
to, it stays the record that set out: on every stretch of its way it belongs to its task, keeps its
routing key and so its partition, and at the end it is itself that is forwarded or reported.

* `LibraryStage.about_run` — what one stage makes of a record is about this record.
* `Topology.OfLibrary` — a topology of such stages; **`Topology.OfLibrary.place`** says that a record
  keeps its partition in it, whatever is done with a plant.
* `handedOn` — the envelopes in which a record is handed on along a chain.
* `sameRecord_of_mem_handedOn`, `about_runChain` — chains of stages whose outcomes are about their
  records.
* `Identified` and **`identified_along_chain`** — what holds of a record on its way through stages
  of the library.
-/

namespace Conveyor

/-! ## One stage -/

namespace LibraryStage

variable {σ : Type} [Clock σ]

theorem about_process (l : LibraryStage σ) (e : Envelope) :
    (l.stage.process e).Answers (Outcome.About e) := by
  cases l with
  | read store policy => exact about_readStage policy store e
  | validate validator policy => exact about_validateStage policy validator e
  | index indexer config policy => exact about_indexStage policy indexer config e
  | write metadata counted policy => exact about_writeStage policy metadata counted e
  | depublish d policy => exact about_depublishStage policy d e

/-- **What a stage of the library makes of a record** is about this record, also if a call
failed. -/
theorem about_run (l : LibraryStage σ) (e : Envelope) (s : σ) : (l.stage.run e s).1.About e :=
  Stage.about_run l.about_process e s

end LibraryStage

namespace Topology

variable {σ : Type} [Clock σ] {t : Topology σ}

/-- A topology of stages of the library. -/
def OfLibrary (t : Topology σ) : Prop := ∀ stage ∈ t.stages, ∃ l : LibraryStage σ, stage = l.stage

theorem OfLibrary.keepsTask (library : t.OfLibrary) : ∀ stage ∈ t.stages, stage.KeepsTask := by
  intro stage mem e s outcome answer
  obtain ⟨l, rfl⟩ := library stage mem
  exact (l.about_process e s outcome answer).task

theorem OfLibrary.keepsKey (library : t.OfLibrary) : ∀ stage ∈ t.stages, stage.KeepsKey := by
  intro stage mem e s e' answer
  obtain ⟨l, rfl⟩ := library stage mem
  have same : e.SameRecord e' := l.about_process e s (.forward e') answer
  exact same.routingKey

/-- **A record travels on the partition of its key** through a topology of the library that has its
topics to itself, whatever is done with a plant. -/
theorem OfLibrary.place (library : t.OfLibrary) (start : σ) {history : List (Operation σ)}
    (leaves : ∀ op ∈ history, op.LeavesTopics t) {first m : Publication} {i : Nat}
    (entry : first.topic = t.entryTopic) (travels : Travels (logAfter start history) first i m) :
    t.topic? i = some m.topic ∧ m.partition = t.partitionFor first.envelope ∧
      m.envelope.routingKey = first.envelope.routingKey := by
  refine travels.place (fun logged mem => ?_) entry
  obtain ⟨op, done, p, mem⟩ := mem_logAfter mem
  exact Operation.fits library.keepsKey (leaves op done) mem

end Topology

/-! ## A chain of stages -/

section

variable {V : Type}

/-- The envelopes in which a record is handed on along a chain of stages, in order. -/
def handedOn : List (Stage V) → Envelope → V → List Envelope
  | [], _, _ => []
  | stage :: rest, e, v =>
      match stage.run e v with
      | (.forward e', v') => e' :: handedOn rest e' v'
      | _ => []

variable {stage : Stage V} {stages rest : List (Stage V)} {e e' : Envelope} {v v' : V}

/-- A stage forwards a record, or the record leaves. -/
theorem Stage.run_cases (stage : Stage V) (e : Envelope) (v : V) :
    (∃ e' v', stage.run e v = (.forward e', v')) ∨
      ∃ outcome v', stage.run e v = (outcome, v') ∧ ∀ e', outcome ≠ .forward e' := by
  cases run : stage.run e v with
  | mk outcome v' =>
    cases outcome with
    | forward e' => exact .inl ⟨e', v', rfl⟩
    | error err => exact .inr ⟨_, v', rfl, fun e' same => by cases same⟩
    | drop id resource => exact .inr ⟨_, v', rfl, fun e' same => by cases same⟩

theorem handedOn_of_forward (run : stage.run e v = (.forward e', v')) :
    handedOn (stage :: rest) e v = e' :: handedOn rest e' v' := by
  rw [handedOn, run]

theorem handedOn_of_leaves {outcome : Outcome} (run : stage.run e v = (outcome, v'))
    (leaves : ∀ e', outcome ≠ .forward e') : handedOn (stage :: rest) e v = [] := by
  rw [handedOn, run]
  cases outcome with
  | forward e' => exact absurd rfl (leaves e')
  | error err => rfl
  | drop id resource => rfl

/-- **Along a chain** a record is handed on as the same record. -/
theorem sameRecord_of_mem_handedOn
    (about : ∀ stage ∈ stages, ∀ e v, (stage.run e v).1.About e) (mem : e' ∈ handedOn stages e v) :
    e.SameRecord e' := by
  induction stages generalizing e v with
  | nil => cases mem
  | cons stage rest ih =>
    rcases stage.run_cases e v with ⟨next, v', run⟩ | ⟨outcome, v', run, leaves⟩
    · have here := about stage List.mem_cons_self e v
      rw [run] at here
      rw [handedOn_of_forward run] at mem
      rcases List.mem_cons.1 mem with rfl | mem
      · exact here
      · exact here.trans (ih (fun stage mem => about stage (List.mem_cons_of_mem _ mem)) mem)
    · rw [handedOn_of_leaves run leaves] at mem
      cases mem

/-- **What becomes of a record** in a chain is about this record. -/
theorem about_runChain (about : ∀ stage ∈ stages, ∀ e v, (stage.run e v).1.About e) (e : Envelope)
    (v : V) : (runChain stages e v).1.About e := by
  induction stages generalizing e v with
  | nil => exact Envelope.SameRecord.refl e
  | cons stage rest ih =>
    have here := about stage List.mem_cons_self e v
    rcases stage.run_cases e v with ⟨next, v', run⟩ | ⟨outcome, v', run, leaves⟩
    · rw [run] at here
      rw [runChain_of_forward run]
      exact (ih (fun stage mem => about stage (List.mem_cons_of_mem _ mem)) next v').of_sameRecord
        here
    · rw [runChain_of_leaves run fun e' same => absurd same (leaves e')]
      rwa [run] at here

/-- A record that comes through is the one that was handed on last. -/
theorem getLast?_handedOn (through : (runChain stages e v).1 = .forward e') :
    (e :: handedOn stages e v).getLast? = some e' := by
  induction stages generalizing e v with
  | nil =>
    obtain rfl := Outcome.forward.inj through
    rfl
  | cons stage rest ih =>
    rcases stage.run_cases e v with ⟨next, v', run⟩ | ⟨outcome, v', run, leaves⟩
    · rw [runChain_of_forward run] at through
      rw [handedOn_of_forward run, List.getLast?_cons_cons]
      exact ih through
    · rw [runChain_of_leaves run fun e' same => absurd same (leaves e')] at through
      exact absurd through (leaves e')

end

/-! ## Stages of the library -/

/-- What holds of a record that is handed on along its way, and of what becomes of it at the end. -/
structure Identified (e : Envelope) (along : List Envelope) (last : Outcome) : Prop where
  /-- It is the same record all along. -/
  same : ∀ e' ∈ along, e.SameRecord e'
  /-- It has the same routing key, and so the same partition in every topology. -/
  routed : ∀ e' ∈ along, e'.routingKey = e.routingKey ∧
    ∀ {V : Type} (t : Topology V), t.partitionFor e' = t.partitionFor e
  /-- If it comes through, it is forwarded as it was handed on last. -/
  through : ∀ e', last = .forward e' → (e :: along).getLast? = some e'
  /-- An error is that of its task and its resource. -/
  failed : ∀ err, last = .error err → err.taskId = e.taskId ∧ err.resource = e.resource
  /-- A removal is that of its task and its resource. -/
  dropped : ∀ id resource, last = .drop id resource → id = e.taskId ∧ resource = e.resource

open LibraryStage

/-- **A record keeps its identity** in any chain of stages of the library, with any services,
configuration and policy. -/
theorem identified_along_chain {σ : Type} [Clock σ] (stages : List (LibraryStage σ)) (e : Envelope)
    (s : σ) :
    Identified e (handedOn (stages.map stage) e s) (runChain (stages.map stage) e s).1 ∧
      ∀ t : Topology σ, t.stages = stages.map stage →
        Identified e (handedOn t.stages e s) (t.runRecord e s).1 := by
  have about : ∀ step ∈ stages.map stage, ∀ e s, (step.run e s).1.About e := by
    intro _ mem e s
    obtain ⟨l, -, rfl⟩ := List.mem_map.1 mem
    exact l.about_run e s
  have ended := about_runChain about e s
  have main : Identified e (handedOn (stages.map stage) e s)
      (runChain (stages.map stage) e s).1 := by
    constructor
    case same => exact fun e' => sameRecord_of_mem_handedOn about
    case routed =>
      intro e' mem
      have key := (sameRecord_of_mem_handedOn about mem).routingKey
      exact ⟨key, fun t => t.partitionFor_of_key key⟩
    case through => exact fun e' => getLast?_handedOn
    case failed =>
      intro err last
      rw [last] at ended
      exact ended
    case dropped =>
      intro id resource last
      rw [last] at ended
      exact ended
  exact ⟨main, fun t built => by rw [Topology.runRecord, built]; exact main⟩

namespace RehearsalServices

/-- A topology of stages that would read and write a record and take it down in between. -/
def withdrawing : Topology (RehearsalServices MemoryBuckets) where
  name := "withdrawing"
  partitions := 5
  chained := false
  entries := withdrawal.map fun l => ⟨l.stage, ⟨none, Dict.empty⟩⟩
  entries_ne_nil := List.cons_ne_nil _ _
  partitions_pos := by decide
  names_nodup := by decide

/-- A record that is handed on once and then taken down, and one whose content cannot be read. -/
theorem identified_withdrawing :
    withdrawing.stages = withdrawal.map LibraryStage.stage ∧
    (handedOn withdrawing.stages shelfDeletion (shelfServices [])).map
      (·.parameter? Parameter.cloudId) = [some "book"] ∧
    Identified shelfDeletion (handedOn withdrawing.stages shelfDeletion (shelfServices []))
      (withdrawing.runRecord shelfDeletion (shelfServices [])).1 ∧
    ∃ err, (withdrawing.runRecord shelfRecord (shelfServices [])).1 = .error err ∧
      err.taskId = ⟨1⟩ ∧ err.resource = shelfRecord.resource := by
  have built : withdrawing.stages = withdrawal.map LibraryStage.stage := rfl
  have identified := fun e => (identified_along_chain withdrawal e (shelfServices [])).2 _ built
  have unread : (withdrawing.runRecord shelfRecord (shelfServices [])).1.counter = .errors := by
    decide +kernel
  refine ⟨built, by decide +kernel, identified shelfDeletion, ?_⟩
  cases last : (withdrawing.runRecord shelfRecord (shelfServices [])).1 with
  | error err => exact ⟨err, rfl, (identified shelfRecord).failed err last⟩
  | _ =>
    rw [last] at unread
    cases unread

end RehearsalServices

end Conveyor
