import Conveyor.Topology.Basic
import Mathlib.Data.List.Basic
import Mathlib.Data.List.Nodup
import Mathlib.Data.List.TakeWhile

/-!
# The way of a record

What becomes of a record that goes through a chain of stages, and how far it gets.

* `Stage.KeepsTask` — every outcome is about the task of the record.
* `Stage.Steady` — the outcome goes by the record alone, whatever the services are like; then so
  does that of a chain, `runChain_of_steady`.
* `stagesVisited` — how many stages of a chain a record visits.
* `chainFrom` — the stages that a record has before it which waits on a topic, among topologies
  that share no topic: **`chainFrom_eq`**.
-/

namespace Conveyor

variable {V : Type}

/-! ## Outcomes -/

namespace Outcome

/-- The task that an outcome is about. -/
def task : Outcome → TaskId
  | forward e => e.taskId
  | error e => e.taskId
  | drop id _ => id

end Outcome

namespace Stage

variable {stage : Stage V}

/-- A stage keeps the task of a record in every outcome. -/
def KeepsTask (stage : Stage V) : Prop :=
  ∀ e v outcome, (stage.process e v).1 = .ok outcome → outcome.task = e.taskId

theorem KeepsTask.run (keeps : stage.KeepsTask) (e : Envelope) (v : V) :
    (stage.run e v).1.task = e.taskId := by
  rw [Stage.run]
  cases processed : stage.process e v with
  | mk answer v' =>
    cases answer with
    | ok outcome => exact keeps e v outcome (by rw [processed])
    | error err => rfl

/-- The outcome of a stage goes by the record alone. -/
def Steady (stage : Stage V) : Prop :=
  ∀ e v v', (stage.process e v).1 = (stage.process e v').1

theorem Steady.run (steady : stage.Steady) (e : Envelope) (v v' : V) :
    (stage.run e v).1 = (stage.run e v').1 := by
  have same := steady e v v'
  rw [Stage.run, Stage.run]
  cases first : stage.process e v with
  | mk answer u =>
    cases second : stage.process e v' with
    | mk answer' u' =>
      rw [first, second] at same
      obtain rfl : answer = answer' := same
      cases answer <;> rfl

end Stage

/-! ## Chains -/

/-- How many stages of a chain a record visits. -/
def stagesVisited : List (Stage V) → Envelope → V → Nat
  | [], _, _ => 0
  | stage :: rest, e, v =>
      match stage.run e v with
      | (.forward e', v') => stagesVisited rest e' v' + 1
      | _ => 1

section

variable {stage : Stage V} {stages rest : List (Stage V)} {e e' : Envelope} {v v' : V}
  {outcome : Outcome}

theorem runChain_of_forward (run : stage.run e v = (.forward e', v')) :
    runChain (stage :: rest) e v = runChain rest e' v' := by
  rw [runChain, run]

theorem stagesVisited_of_forward (run : stage.run e v = (.forward e', v')) :
    stagesVisited (stage :: rest) e v = stagesVisited rest e' v' + 1 := by
  rw [stagesVisited, run]

theorem runChain_of_leaves (run : stage.run e v = (outcome, v'))
    (leaves : ∀ e', outcome = .forward e' → rest = []) :
    runChain (stage :: rest) e v = (outcome, v') := by
  rw [runChain, run]
  cases outcome with
  | forward e' =>
    rw [leaves e' rfl]
    rfl
  | error err => rfl
  | drop id resource => rfl

theorem stagesVisited_of_leaves (run : stage.run e v = (outcome, v'))
    (leaves : ∀ e', outcome = .forward e' → rest = []) :
    stagesVisited (stage :: rest) e v = 1 := by
  rw [stagesVisited, run]
  cases outcome with
  | forward e' =>
    rw [leaves e' rfl]
    rfl
  | error err => rfl
  | drop id resource => rfl

/-- **A chain of steady stages is steady**: neither what becomes of a record nor how far it gets
goes by the services. -/
theorem runChain_of_steady (steady : ∀ stage ∈ stages, stage.Steady) (e : Envelope) (v v' : V) :
    (runChain stages e v).1 = (runChain stages e v').1 ∧
      stagesVisited stages e v = stagesVisited stages e v' := by
  induction stages generalizing e v v' with
  | nil => exact ⟨rfl, rfl⟩
  | cons stage rest ih =>
    have same := (steady stage (List.mem_cons_self ..)).run e v v'
    have ih := ih fun stage mem => steady stage (List.mem_cons_of_mem _ mem)
    cases first : stage.run e v with
    | mk outcome u =>
      cases second : stage.run e v' with
      | mk outcome' u' =>
        rw [first, second] at same
        obtain rfl : outcome = outcome' := same
        cases outcome with
        | forward e' =>
          obtain ⟨outcomes, visits⟩ := ih e' u u'
          rw [runChain_of_forward first, runChain_of_forward second,
            stagesVisited_of_forward first, stagesVisited_of_forward second]
          exact ⟨outcomes, congrArg (· + 1) visits⟩
        | error err =>
          simp only [runChain, stagesVisited, first, second, and_self]
        | drop id resource =>
          simp only [runChain, stagesVisited, first, second, and_self]

theorem task_runChain (keeps : ∀ stage ∈ stages, stage.KeepsTask) (e : Envelope) (v : V) :
    (runChain stages e v).1.task = e.taskId := by
  induction stages generalizing e v with
  | nil => rfl
  | cons stage rest ih =>
    have kept := (keeps stage (List.mem_cons_self ..)).run e v
    have ih := ih fun stage mem => keeps stage (List.mem_cons_of_mem _ mem)
    cases run : stage.run e v with
    | mk outcome v' =>
      rw [run] at kept
      cases outcome with
      | forward e' =>
        rw [runChain_of_forward run, ih]
        exact kept
      | error err =>
        simp only [runChain, run]
        exact kept
      | drop id resource =>
        simp only [runChain, run]
        exact kept

end

/-! ## The stages behind a topic -/

/-- The stages of a topology from the one on whose topic a record waits. -/
def Topology.stagesFrom (t : Topology V) (topic : String) : List (Stage V) :=
  t.stages.dropWhile fun stage => stageTopic t.name stage.name ≠ topic

/-- The stages that a record has before it which waits on a topic of some topologies. -/
def chainFrom (topologies : List (Topology V)) (topic : String) : List (Stage V) :=
  topologies.flatMap fun t => t.stagesFrom topic

section

variable {t : Topology V} {topologies : List (Topology V)} {topic : String}

theorem Topology.stagesFrom_of_not_mem (h : topic ∉ t.topics) : t.stagesFrom topic = [] := by
  rw [stagesFrom, List.dropWhile_eq_nil_iff]
  intro stage mem
  have apart : stageTopic t.name stage.name ≠ topic := fun same =>
    h (List.mem_map.2 ⟨stage, mem, same⟩)
  simpa using apart

theorem Topology.stagesFrom_eq {stage : Stage V} {before after : List (Stage V)}
    (split : t.stages = before ++ stage :: after) (distinct : t.topics.Nodup) :
    t.stagesFrom (stageTopic t.name stage.name) = stage :: after := by
  rw [stagesFrom, split, List.dropWhile_append_of_pos]
  · simp
  · intro other mem
    -- the topic of an earlier stage is another one, since no topic comes twice
    rw [topics, split, List.map_append, List.nodup_append] at distinct
    have apart := distinct.2.2 _ (List.mem_map_of_mem mem) _
      (List.mem_map_of_mem (List.mem_cons_self ..))
    simpa using apart

/-- **The way from a topic** is that of its stage and the stages behind it, if no topic comes
twice. -/
theorem chainFrom_eq (distinct : (topologies.flatMap Topology.topics).Nodup) (mem : t ∈ topologies)
    {stage : Stage V} {before after : List (Stage V)}
    (split : t.stages = before ++ stage :: after) :
    chainFrom topologies (stageTopic t.name stage.name) = stage :: after := by
  obtain ⟨first, last, rfl⟩ := List.append_of_mem mem
  have own : stageTopic t.name stage.name ∈ t.topics := by
    rw [Topology.topics, split]
    exact List.mem_map_of_mem (List.mem_append_right _ (List.mem_cons_self ..))
  rw [List.flatMap_append, List.flatMap_cons] at distinct
  rw [List.nodup_append] at distinct
  obtain ⟨-, rest, apart⟩ := distinct
  rw [List.nodup_append] at rest
  obtain ⟨here, -, apart'⟩ := rest
  have none : first.flatMap (fun t' => t'.stagesFrom (stageTopic t.name stage.name)) = [] := by
    rw [List.flatMap_eq_nil_iff]
    intro t' mem'
    refine Topology.stagesFrom_of_not_mem fun shared => ?_
    exact apart _ (List.mem_flatMap.2 ⟨t', mem', shared⟩) _ (List.mem_append_left _ own) rfl
  have none' : last.flatMap (fun t' => t'.stagesFrom (stageTopic t.name stage.name)) = [] := by
    rw [List.flatMap_eq_nil_iff]
    intro t' mem'
    refine Topology.stagesFrom_of_not_mem fun shared => ?_
    exact apart' _ own _ (List.mem_flatMap.2 ⟨t', mem', shared⟩) rfl
  rw [chainFrom, List.flatMap_append, List.flatMap_cons, none, none',
    Topology.stagesFrom_eq split here, List.nil_append, List.append_nil]

theorem Topology.exists_entry (t : Topology V) : ∃ stage rest, t.stages = stage :: rest ∧
    t.entryTopic = stageTopic t.name stage.name := by
  refine ⟨(t.entries.head t.entries_ne_nil).stage, t.entries.tail.map (·.stage), ?_, rfl⟩
  rw [stages, ← List.map_cons, List.cons_head_tail]

/-- From there the way is the whole chain. -/
theorem chainFrom_entryTopic (distinct : (topologies.flatMap Topology.topics).Nodup)
    (mem : t ∈ topologies) : chainFrom topologies t.entryTopic = t.stages := by
  obtain ⟨stage, rest, stages, entry⟩ := t.exists_entry
  rw [entry, stages]
  have split : t.stages = [] ++ stage :: rest := stages
  exact chainFrom_eq distinct mem split

theorem mem_chainFrom {stage : Stage V} (h : stage ∈ chainFrom topologies topic) :
    ∃ t ∈ topologies, stage ∈ t.stages := by
  obtain ⟨t, mem, here⟩ := List.mem_flatMap.1 h
  exact ⟨t, mem, (List.dropWhile_sublist _).subset here⟩

theorem length_chainFrom_le (topologies : List (Topology V)) (topic : String) :
    (chainFrom topologies topic).length ≤ (topologies.flatMap Topology.topics).length := by
  induction topologies with
  | nil => exact Nat.le_refl 0
  | cons t rest ih =>
    have here : (t.stagesFrom topic).length ≤ t.topics.length := by
      rw [Topology.topics, List.length_map]
      exact (List.dropWhile_sublist _).length_le
    rw [chainFrom, List.flatMap_cons, List.length_append, List.flatMap_cons, List.length_append]
    exact Nat.add_le_add here ih

end

end Conveyor
