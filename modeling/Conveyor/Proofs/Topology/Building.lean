import Conveyor.Proofs.Topology.Topics
import Conveyor.Topology.Builder
import Mathlib.Data.List.Induction

/-!
# What a builder builds

A topology is made in steps of any number and order, and what comes of them can be read off the
steps: the stages that were added, in their order; of the partitions and of the chaining what was
said last; and of every stage what was said behind it, up to the next one.

* `IsFirstRepeated` — the first name of a list that stood in it before.
* `TopologyBuilder.Step` — a step; `TopologyBuilder.after` — an unfinished topology after some.
* `TopologyBuilder.lastOf` — what was said last; `TopologyBuilder.stretches` — the stages, each with
  the steps behind it, up to the next one.
* **`TopologyBuilder.latest_after`** — the stages of an unfinished topology, with what is said of
  them.
* `TopologyBuilder.Built` — what `TopologyBuilder.build` makes of some steps.
* **`TopologyBuilder.built_after`** — it makes that of them, whatever they are.
-/

namespace Conveyor

/-! ## The first name that stood there before -/

/-- All names before a name are different, and it is one of them. -/
def IsFirstRepeated (name : String) (names : List String) : Prop :=
  ∃ before after, names = before ++ name :: after ∧ name ∈ before ∧ before.Nodup

theorem IsFirstRepeated.not_nodup {names : List String} {name : String}
    (h : IsFirstRepeated name names) : ¬ names.Nodup := by
  obtain ⟨before, after, rfl, again, -⟩ := h
  exact fun nodup => (List.nodup_append.1 nodup).2.2 name again name List.mem_cons_self rfl

namespace TopologyBuilder

theorem exists_of_firstRepeated? {seen names : List String} {name : String}
    (h : firstRepeated? seen names = some name) :
    ∃ before after, names = before ++ name :: after ∧ (name ∈ before ∨ name ∈ seen) ∧
      before.Nodup ∧ ∀ other ∈ before, other ∉ seen := by
  induction names generalizing seen with
  | nil => cases h
  | cons first rest ih =>
    unfold firstRepeated? at h
    split at h
    · rename_i old
      obtain rfl := Option.some.inj h
      exact ⟨[], rest, rfl, .inr old, .nil, by simp⟩
    · rename_i fresh
      obtain ⟨before, after, rfl, again, nodup, apart⟩ := ih h
      refine ⟨first :: before, after, rfl, ?_, ?_, ?_⟩
      · rcases again with again | again
        · exact .inl (List.mem_cons_of_mem _ again)
        · rcases List.mem_cons.1 again with rfl | again
          · exact .inl List.mem_cons_self
          · exact .inr again
      · exact List.nodup_cons.2 ⟨fun mem => apart first mem List.mem_cons_self, nodup⟩
      · intro other mem
        rcases List.mem_cons.1 mem with rfl | mem
        · exact fresh
        · exact fun old => apart other mem (List.mem_cons_of_mem _ old)

/-- **What the search finds** is the first name that stood there before. -/
theorem isFirstRepeated_of_some {names : List String} {name : String}
    (h : firstRepeated? [] names = some name) : IsFirstRepeated name names := by
  obtain ⟨before, after, split, again, nodup, -⟩ := exists_of_firstRepeated? h
  exact ⟨before, after, split, again.resolve_right List.not_mem_nil, nodup⟩

variable {σ α β : Type}

/-! ## Steps -/

/-- A step in the making of a topology. -/
inductive Step (σ : Type) where
  /-- A stage is added, as the first one or as another, or as one that other topologies have too. -/
  | add (stage : Stage σ)
  | describe (description : String)
  | tag (key value : String)
  | withPartitions (partitions : Nat)
  | withChained (chained : Bool)

namespace Step

def apply (b : TopologyBuilder σ) : Step σ → TopologyBuilder σ
  | add stage => b.add stage
  | describe description => b.describe description
  | tag key value => b.tag key value
  | withPartitions partitions => b.withPartitions partitions
  | withChained chained => b.withChained chained

def stage? : Step σ → Option (Stage σ)
  | add stage => some stage
  | _ => none

def partitions? : Step σ → Option Nat
  | withPartitions partitions => some partitions
  | _ => none

def chained? : Step σ → Option Bool
  | withChained chained => some chained
  | _ => none

def description? : Step σ → Option String
  | describe description => some description
  | _ => none

/-- The value that a step gives to a tag. -/
def value? (key : String) : Step σ → Option String
  | tag k value => if k = key then some value else none
  | _ => none

/-- Whether a step tells of a stage. -/
def isNote : Step σ → Bool
  | describe _ | tag _ _ => true
  | _ => false

/-- What a step makes of what is said of a stage. -/
def note (a : Annotation) : Step σ → Annotation
  | describe description => { a with description := some description }
  | tag key value => { a with tags := a.tags.insert key value }
  | _ => a

end Step

open Step (apply stage? partitions? chained? description? value? note)

/-- An unfinished topology after some steps. -/
def after (start : TopologyBuilder σ) (steps : List (Step σ)) : TopologyBuilder σ :=
  steps.foldl apply start

theorem after_append (start : TopologyBuilder σ) (steps later : List (Step σ)) :
    start.after (steps ++ later) = (start.after steps).after later :=
  List.foldl_append

/-- What is said of stages before there is one changes nothing. -/
theorem after_early {start : TopologyBuilder σ} (fresh : start.latest = []) {early : List (Step σ)}
    (bare : ∀ step ∈ early, step.stage? = none) :
    start.after early = start.after (early.filter fun step => !step.isNote) := by
  induction early generalizing start with
  | nil => rfl
  | cons step early ih =>
    have later := fun step mem => bare step (List.mem_cons_of_mem _ mem)
    cases step with
    | add stage => cases bare _ List.mem_cons_self
    | describe description =>
      have still : apply start (.describe description) = start := by
        rw [apply, describe, annotate, fresh]
      exact (congrArg (after · early) still).trans (ih fresh later)
    | tag key value =>
      have still : apply start (.tag key value) = start := by
        rw [apply, tag, annotate, fresh]
      exact (congrArg (after · early) still).trans (ih fresh later)
    | withPartitions partitions =>
      have fresh' : (start.withPartitions partitions).latest = [] := fresh
      exact ih fresh' later
    | withChained chained =>
      have fresh' : (start.withChained chained).latest = [] := fresh
      exact ih fresh' later

section

variable (b : TopologyBuilder σ) (change : Annotation → Annotation)

@[simp] theorem name_annotate : (b.annotate change).name = b.name := by
  unfold annotate
  split <;> rfl

@[simp] theorem partitions_annotate : (b.annotate change).partitions = b.partitions := by
  unfold annotate
  split <;> rfl

@[simp] theorem chained_annotate : (b.annotate change).chained = b.chained := by
  unfold annotate
  split <;> rfl

end

/-! ## What is said last -/

/-- The last of the values that steps give. -/
def lastOf (value? : Step σ → Option α) (steps : List (Step σ)) : Option α :=
  (steps.filterMap value?).getLast?

/-- **What is said last counts**, of anything that a step either tells anew or leaves as it is. -/
theorem foldl_lastOf {run : β → Step σ → β} {value? : Step σ → Option α} (read : β → Option α)
    (tells : ∀ b step, read (run b step) = (value? step).or (read b)) (b : β)
    (steps : List (Step σ)) :
    read (steps.foldl run b) = (lastOf value? steps).or (read b) := by
  induction steps using List.reverseRecOn with
  | nil => rfl
  | append_singleton steps step ih =>
    have last : lastOf value? (steps ++ [step]) = (value? step).or (lastOf value? steps) := by
      rw [lastOf, List.filterMap_append, List.getLast?_append, List.filterMap_cons]
      cases value? step <;> rfl
    rw [List.foldl_concat, tells, ih, last, Option.or_assoc]

variable (start : TopologyBuilder σ) (steps : List (Step σ))

theorem name_after : (start.after steps).name = start.name := by
  induction steps using List.reverseRecOn with
  | nil => rfl
  | append_singleton steps step ih =>
    rw [after, List.foldl_concat, ← ih]
    cases step with
    | describe => exact name_annotate ..
    | tag => exact name_annotate ..
    | _ => rfl

/-- A setting is what is said last of it, or what it was at the start. -/
theorem setting_after {setting : TopologyBuilder σ → α} {value? : Step σ → Option α}
    (tells : ∀ b step, setting (apply b step) = (value? step).getD (setting b)) :
    setting (start.after steps) = (lastOf value? steps).getD (setting start) := by
  have last := foldl_lastOf (fun b => some (setting b))
    (fun b step => (congrArg some (tells b step)).trans Option.or_some.symm) start steps
  rw [Option.or_some] at last
  exact Option.some.inj last

theorem partitions_after :
    (start.after steps).partitions = (lastOf partitions? steps).getD start.partitions := by
  refine setting_after start steps fun b step => ?_
  cases step with
  | describe => exact partitions_annotate ..
  | tag => exact partitions_annotate ..
  | _ => rfl

theorem chained_after :
    (start.after steps).chained = (lastOf chained? steps).getD start.chained := by
  refine setting_after start steps fun b step => ?_
  cases step with
  | describe => exact chained_annotate ..
  | tag => exact chained_annotate ..
  | _ => rfl

/-- What is said of a stage of which nothing was said before. -/
def noted (notes : List (Step σ)) : Annotation := notes.foldl note ⟨none, Dict.empty⟩

theorem description_noted (notes : List (Step σ)) :
    (noted notes).description = lastOf description? notes := by
  have tells : ∀ (a : Annotation) (step : Step σ),
      (note a step).description = (description? step).or a.description := by
    intro a step
    cases step <;> rfl
  exact (foldl_lastOf Annotation.description tells _ notes).trans Option.or_none

theorem tags_noted (notes : List (Step σ)) (key : String) :
    (noted notes).tags.get? key = lastOf (value? key) notes := by
  have tells : ∀ (a : Annotation) (step : Step σ),
      (note a step).tags.get? key = (value? key step).or (a.tags.get? key) := by
    intro a step
    cases step with
    | tag k value =>
      rw [note, value?, Dict.get?_insert]
      split <;> rfl
    | _ => rfl
  exact (foldl_lastOf (fun a : Annotation => a.tags.get? key) tells _ notes).trans Option.or_none

/-! ## Stages and what is said of them -/

/-- The stages that steps add, in their order. -/
def stagesOf (steps : List (Step σ)) : List (Stage σ) := steps.filterMap stage?

/-- The steps before the next stage. -/
def untilNext (steps : List (Step σ)) : List (Step σ) := steps.takeWhile fun s => s.stage?.isNone

/-- The stages that steps add, each with the steps behind it, up to the next one. -/
def stretches : List (Step σ) → List (Stage σ × List (Step σ))
  | [] => []
  | step :: rest =>
      match step.stage? with
      | some stage => (stage, untilNext rest) :: stretches rest
      | none => stretches rest

theorem map_stretches : (stretches steps).map (·.1) = stagesOf steps := by
  induction steps with
  | nil => rfl
  | cons step rest ih =>
    rw [stretches, stagesOf, List.filterMap_cons]
    cases step.stage? with
    | none => exact ih
    | some stage => exact congrArg (stage :: ·) ih

/-- A stage as it stands in a topology. -/
def entryOf (stretch : Stage σ × List (Step σ)) : StageEntry σ := ⟨stretch.1, noted stretch.2⟩

/-- The stages of an unfinished topology, if more is said of the latest one. -/
def saidOf (notes : List (Step σ)) : List (StageEntry σ) → List (StageEntry σ)
  | [] => []
  | e :: rest => { e with annotation := notes.foldl note e.annotation } :: rest

theorem saidOf_nil (latest : List (StageEntry σ)) : saidOf [] latest = latest := by
  cases latest <;> rfl

/-- A step that adds no stage tells of the latest one. -/
theorem saidOf_apply {b : TopologyBuilder σ} {step : Step σ} (bare : step.stage? = none)
    (notes : List (Step σ)) :
    saidOf notes (apply b step).latest = saidOf (step :: notes) b.latest := by
  obtain ⟨name, partitions, chained, latest⟩ := b
  cases step with
  | add stage => cases bare
  | _ => cases latest <;> rfl

/-- **The stages of an unfinished topology**, each with what is said of it before the next one. -/
theorem latest_after :
    (start.after steps).latest
      = ((stretches steps).map entryOf).reverse ++ saidOf (untilNext steps) start.latest := by
  induction steps generalizing start with
  | nil => exact (saidOf_nil start.latest).symm
  | cons step rest ih =>
    have next : start.after (step :: rest) = (apply start step).after rest := rfl
    rw [next, ih]
    cases step with
    | add stage =>
      have here : saidOf (untilNext rest) (start.add stage).latest
          = entryOf (stage, untilNext rest) :: start.latest := rfl
      have ahead : stretches (.add stage :: rest) = (stage, untilNext rest) :: stretches rest := rfl
      have ended : untilNext (.add stage :: rest) = [] := rfl
      rw [apply, here, ahead, ended, saidOf_nil, List.map_cons, List.reverse_cons, List.append_assoc]
      rfl
    | _ => exact congrArg (_ ++ ·) (saidOf_apply rfl _)

/-- The stages of a topology that was begun without any. -/
theorem entries_after (fresh : start.latest = []) :
    (start.after steps).latest.reverse = (stretches steps).map entryOf := by
  rw [latest_after, fresh, saidOf, List.append_nil, List.reverse_reverse]

theorem stages_after (fresh : start.latest = []) :
    ((start.after steps).latest.reverse).map (·.stage) = stagesOf steps := by
  rw [entries_after _ _ fresh, List.map_map, ← map_stretches]
  rfl

/-! ## Building -/

section

variable {b : TopologyBuilder σ}

/-- The names of the stages, in their order. -/
def names (b : TopologyBuilder σ) : List String := b.latest.reverse.map fun e => e.stage.name

theorem build_of_noStages (bare : b.latest = []) : b.build = .error (.noStages b.name) := by
  unfold build
  rw [dif_pos (by rw [bare]; rfl)]

theorem build_of_noPartitions (staged : b.latest ≠ []) (zero : b.partitions = 0) :
    b.build = .error (.noPartitions b.name) := by
  unfold build
  rw [dif_neg (by simpa using staged), dif_pos zero]

theorem build_of_repeated (staged : b.latest ≠ []) (positive : 0 < b.partitions)
    (repeated : ¬ b.names.Nodup) :
    ∃ name, IsFirstRepeated name b.names ∧ b.build = .error (.duplicateStage b.name name) := by
  unfold build
  rw [dif_neg (by simpa using staged), dif_neg (Nat.ne_of_gt positive)]
  split
  · rename_i name found
    exact ⟨name, isFirstRepeated_of_some found, rfl⟩
  · rename_i found
    exact absurd (nodup_of_firstRepeated?_eq_none found).1 repeated

theorem build_of_distinct (staged : b.latest ≠ []) (positive : 0 < b.partitions)
    (distinct : b.names.Nodup) :
    ∃ t, b.build = .ok t ∧ t.name = b.name ∧ t.partitions = b.partitions ∧ t.chained = b.chained ∧
      t.entries = b.latest.reverse := by
  unfold build
  rw [dif_neg (by simpa using staged), dif_neg (Nat.ne_of_gt positive)]
  split
  · rename_i name found
    exact absurd distinct (isFirstRepeated_of_some found).not_nodup
  · exact ⟨_, rfl, rfl, rfl, rfl, rfl⟩

end

end TopologyBuilder

/-- The node of a stage in the graph of its topology. -/
theorem Topology.nodesFrom_getElem? {σ : Type} (name : String) (first : Nat)
    (entries : List (StageEntry σ)) (i : Nat) :
    (nodesFrom name first entries)[i]? = entries[i]?.map fun e =>
      ⟨e.stage.name, first + i, stageTopic name e.stage.name, e.annotation⟩ := by
  induction entries generalizing first i with
  | nil => rfl
  | cons e rest ih =>
    cases i with
    | zero => rfl
    | succ i =>
      rw [nodesFrom, List.getElem?_cons_succ, List.getElem?_cons_succ, ih, Nat.add_assoc,
        Nat.add_comm 1 i]

theorem Topology.length_nodesFrom {σ : Type} (name : String) (first : Nat)
    (entries : List (StageEntry σ)) : (nodesFrom name first entries).length = entries.length := by
  induction entries generalizing first with
  | nil => rfl
  | cons e rest ih => rw [nodesFrom, List.length_cons, List.length_cons, ih]

namespace TopologyBuilder

open Step (partitions? chained? description? value?)

variable {σ : Type}

/-- A topology is what steps say: it has the stages that were added, and of each of them, in its
graph, what was said last between it and the next one; and its topics are those of its stages. -/
structure Follows (start : TopologyBuilder σ) (steps : List (Step σ)) (t : Topology σ) : Prop where
  name : t.name = start.name
  partitions : t.partitions = (lastOf partitions? steps).getD start.partitions
  chained : t.chained = (lastOf chained? steps).getD start.chained
  stages : t.stages = stagesOf steps
  graph : t.graph.name = t.name ∧ t.graph.partitions = t.partitions ∧
    t.graph.nodes.length = (stagesOf steps).length
  node : ∀ i stage notes, (stretches steps)[i]? = some (stage, notes) →
    ∃ node, t.graph.nodes[i]? = some node ∧ node.name = stage.name ∧ node.index = i ∧
      t.topic? i = some node.topic ∧ node.annotation.description = lastOf description? notes ∧
        ∀ key, node.annotation.tags.get? key = lastOf (value? key) notes
  topic : ∀ i, t.topic? i = none ↔ (stagesOf steps).length ≤ i
  entry : t.topic? 0 = some t.entryTopic

/-- What is built after some steps: a topology if there are stages, partitions and different names,
and else it is refused for the first of these that is wanting. -/
structure Built (start : TopologyBuilder σ) (steps : List (Step σ)) : Prop where
  succeeds : (∃ t, (start.after steps).build = .ok t) ↔ stagesOf steps ≠ [] ∧
    0 < (lastOf partitions? steps).getD start.partitions ∧
      ((stagesOf steps).map (·.name)).Nodup
  noStages : stagesOf steps = [] → (start.after steps).build = .error (.noStages start.name)
  noPartitions : stagesOf steps ≠ [] → (lastOf partitions? steps).getD start.partitions = 0 →
    (start.after steps).build = .error (.noPartitions start.name)
  repeated : stagesOf steps ≠ [] → 0 < (lastOf partitions? steps).getD start.partitions →
    ¬ ((stagesOf steps).map (·.name)).Nodup →
      ∃ name, IsFirstRepeated name ((stagesOf steps).map (·.name)) ∧
        (start.after steps).build = .error (.duplicateStage start.name name)
  follows : ∀ t, (start.after steps).build = .ok t → Follows start steps t
  /-- What is said of stages before there is one has no effect. -/
  early : ∀ before : List (Step σ), (∀ step ∈ before, step.stage? = none) →
    (start.after (before ++ steps)).build
      = (start.after ((before.filter fun step => !step.isNote) ++ steps)).build

section

variable {start : TopologyBuilder σ} (fresh : start.latest = []) (steps : List (Step σ))

include fresh

theorem Follows.of_entries {t : Topology σ} (name : t.name = start.name)
    (partitions : t.partitions = (lastOf partitions? steps).getD start.partitions)
    (chained : t.chained = (lastOf chained? steps).getD start.chained)
    (entries : t.entries = (start.after steps).latest.reverse) : Follows start steps t := by
  rw [entries_after start steps fresh] at entries
  have stages : t.stages = stagesOf steps := by
    rw [Topology.stages, entries, List.map_map, ← map_stretches]
    rfl
  refine ⟨name, partitions, chained, stages, ⟨rfl, rfl, ?_⟩, fun i stage notes there => ?_,
    fun i => ?_, t.topic?_zero⟩
  · rw [Topology.graph, Topology.length_nodesFrom, entries, ← map_stretches, List.length_map,
      List.length_map]
  · have entry : t.entries[i]? = some (entryOf (stage, notes)) := by
      rw [entries, List.getElem?_map, there]
      rfl
    refine ⟨⟨stage.name, i, stageTopic t.name stage.name, noted notes⟩, ?_, rfl, rfl, ?_,
      description_noted notes, tags_noted notes⟩
    · rw [Topology.graph, Topology.nodesFrom_getElem?, entry, Option.map_some, Nat.zero_add]
      rfl
    · rw [Topology.topic?, Topology.stages, List.getElem?_map, entry]
      rfl
  · rw [Topology.topic?, Option.map_eq_none_iff, List.getElem?_eq_none_iff, stages]

/-- **What is built of steps** after a start without stages. -/
theorem built_of_fresh : Built start steps := by
  have stages := stages_after start steps fresh
  have bare : (start.after steps).latest = [] ↔ stagesOf steps = [] := by
    rw [← stages, List.map_eq_nil_iff, List.reverse_eq_nil_iff]
  have named : (start.after steps).names = (stagesOf steps).map (·.name) := by
    rw [names, ← stages, List.map_map]
    rfl
  have noStages : stagesOf steps = [] → (start.after steps).build = _ :=
    fun empty => build_of_noStages (bare.2 empty)
  have noPartitions := fun staged : stagesOf steps ≠ [] =>
    build_of_noPartitions (mt bare.1 staged)
  have repeated := fun staged : stagesOf steps ≠ [] => build_of_repeated (mt bare.1 staged)
  have distinct := fun staged : stagesOf steps ≠ [] => build_of_distinct (mt bare.1 staged)
  rw [name_after] at noStages
  rw [partitions_after, name_after] at noPartitions
  rw [partitions_after, named, name_after] at repeated
  rw [partitions_after, named, name_after, chained_after] at distinct
  have sound : ∀ t, (start.after steps).build = .ok t → stagesOf steps ≠ [] ∧
      0 < (lastOf partitions? steps).getD start.partitions ∧
        ((stagesOf steps).map (·.name)).Nodup := by
    intro t built
    have staged : stagesOf steps ≠ [] := by
      intro empty
      cases (noStages empty).symm.trans built
    have positive : 0 < (lastOf partitions? steps).getD start.partitions := by
      refine Nat.pos_of_ne_zero fun zero => ?_
      cases (noPartitions staged zero).symm.trans built
    refine ⟨staged, positive, Classical.byContradiction fun twice => ?_⟩
    obtain ⟨name, -, failed⟩ := repeated staged positive twice
    cases failed.symm.trans built
  refine ⟨⟨fun ⟨t, built⟩ => sound t built, fun ⟨staged, positive, apart⟩ => ?_⟩, noStages,
    noPartitions, repeated, fun t built => ?_, fun before bare => ?_⟩
  · obtain ⟨t, built, -⟩ := distinct staged positive apart
    exact ⟨t, built⟩
  · obtain ⟨staged, positive, apart⟩ := sound t built
    obtain ⟨t', built', name, partitions, chained, entries⟩ := distinct staged positive apart
    obtain rfl : t' = t := Except.ok.inj (built'.symm.trans built)
    exact .of_entries fresh steps name partitions chained entries
  · rw [after_append, after_append, after_early fresh bare]

end

/-- **Whatever steps are taken**, and in whatever order, what is built of them is what they say. -/
theorem built_after (steps : List (Step σ)) :
    (∀ name, Built (new name) steps) ∧ ∀ c, Built (ofConfig c) steps :=
  ⟨fun _ => built_of_fresh rfl steps, fun _ => built_of_fresh rfl steps⟩

end TopologyBuilder

end Conveyor
