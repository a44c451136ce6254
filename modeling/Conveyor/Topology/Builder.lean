import Conveyor.Config.Basic
import Conveyor.Topology.Basic

/-!
# Building topologies

A topology is put together step by step: stages are added, each may then be described and tagged,
and the number of partitions and the chaining may be set at any time.  Only the finished plan is
looked at.

* `TopologyBuilder` — an unfinished topology; `TopologyBuilder.new`, `TopologyBuilder.ofConfig`.
* `TopologyBuilder.add`, `describe`, `tag`, `withPartitions`, `withChained` — the steps.
* `TopologyBuilder.build` — the topology, or why there is none.
-/

namespace Conveyor

/-- Why a plan is no topology. -/
inductive TopologyError where
  | noStages (topology : String)
  | noPartitions (topology : String)
  | duplicateStage (topology stage : String)
deriving DecidableEq, Repr

def TopologyError.message : TopologyError → String
  | noStages topology => "topology '" ++ topology ++ "' has no stages"
  | noPartitions topology => "topology '" ++ topology ++ "' must have at least one partition"
  | duplicateStage topology stage =>
      "topology '" ++ topology ++ "' has more than one stage named '" ++ stage ++ "'"

/-- An unfinished topology. -/
structure TopologyBuilder (σ : Type) where
  name : String
  partitions : Nat
  chained : Bool
  /-- The stages added so far, the latest first. -/
  latest : List (StageEntry σ)

namespace TopologyBuilder

variable {σ : Type}

/-- A topology without stages and otherwise standard settings. -/
def new (name : String) : TopologyBuilder σ := ⟨name, standardPartitions, false, []⟩

/-- A topology without stages and with the settings of a configuration. -/
def ofConfig (c : TopologyConfig) : TopologyBuilder σ := ⟨c.name, c.partitions, c.chained, []⟩

/-- Adds a stage at the end. -/
def add (b : TopologyBuilder σ) (stage : Stage σ) : TopologyBuilder σ :=
  { b with latest := ⟨stage, ⟨none, Dict.empty⟩⟩ :: b.latest }

/-- Changes what is said about the latest stage; before the first stage there is none. -/
def annotate (b : TopologyBuilder σ) (change : Annotation → Annotation) : TopologyBuilder σ :=
  match b.latest with
  | [] => b
  | e :: rest => { b with latest := { e with annotation := change e.annotation } :: rest }

def describe (b : TopologyBuilder σ) (description : String) : TopologyBuilder σ :=
  b.annotate fun a => { a with description := some description }

def tag (b : TopologyBuilder σ) (key value : String) : TopologyBuilder σ :=
  b.annotate fun a => { a with tags := a.tags.insert key value }

def withPartitions (b : TopologyBuilder σ) (partitions : Nat) : TopologyBuilder σ :=
  { b with partitions := partitions }

def withChained (b : TopologyBuilder σ) (chained : Bool) : TopologyBuilder σ :=
  { b with chained := chained }

/-- The first name of a list that stood in it before. -/
def firstRepeated? (seen : List String) : List String → Option String
  | [] => none
  | name :: rest => if name ∈ seen then some name else firstRepeated? (name :: seen) rest

theorem nodup_of_firstRepeated?_eq_none {seen names : List String}
    (h : firstRepeated? seen names = none) :
    names.Nodup ∧ ∀ name ∈ names, name ∉ seen := by
  induction names generalizing seen with
  | nil => exact ⟨.nil, by simp⟩
  | cons name rest ih =>
    unfold firstRepeated? at h
    split at h
    · cases h
    · rename_i fresh
      obtain ⟨nodup, apart⟩ := ih h
      refine ⟨List.nodup_cons.2 ⟨fun mem => ?_, nodup⟩, fun other mem => ?_⟩
      · exact apart name mem (by simp)
      · rcases List.mem_cons.1 mem with rfl | mem
        · exact fresh
        · exact fun seen_other => apart other mem (by simp [seen_other])

/-- **The topology of a finished plan**: it needs a stage, a partition, and a name of its own for
every stage, and is refused for the first of these that it lacks. -/
def build (b : TopologyBuilder σ) : Except TopologyError (Topology σ) :=
  let entries := b.latest.reverse
  if hs : entries = [] then .error (.noStages b.name)
  else if hp : b.partitions = 0 then .error (.noPartitions b.name)
  else
    match hn : firstRepeated? [] (entries.map fun e => e.stage.name) with
    | some stage => .error (.duplicateStage b.name stage)
    | none =>
        .ok
          { name := b.name
            partitions := b.partitions
            chained := b.chained
            entries := entries
            entries_ne_nil := hs
            partitions_pos := Nat.pos_of_ne_zero hp
            names_nodup := (nodup_of_firstRepeated?_eq_none hn).1 }

end TopologyBuilder

end Conveyor
