import Conveyor.Action
import Conveyor.StoreError
import Conveyor.Task.Info

/-!
# Stores of task progress

Every change of a task's progress is one call of the store, which looks at the record and changes
it in one go: nobody reads a record, changes it and writes it back.

* `TaskStore` — the operations.
* `TaskInfo.moved`, `TaskInfo.completed` — what the changes of a state do to a record.
* `placeBy` — rows in the order of their keys.
-/

namespace Conveyor

/-- Stores of task progress. -/
class TaskStore (T : Type) where
  insert : TaskInfo → Action T StoreError Unit
  upsert : TaskInfo → Action T StoreError Unit
  find : TaskId → Action T StoreError (Option TaskInfo)
  /-- The records of the tasks in any of some states, by number. -/
  list : List TaskState → Action T StoreError (List TaskInfo)
  /-- Raises a count of a task that is not done; answers whether there is one. -/
  increment : TaskId → Counter → Action T StoreError Bool
  setExpected : TaskId → Int → Action T StoreError Unit
  /-- Moves a task that is in any of some states to another; answers whether it did. -/
  transition : Timestamp → TaskId → List TaskState → TaskState → String → Action T StoreError Bool
  /-- Notes the first reason why a task that is not done will fail. -/
  recordFatal : TaskId → String → Action T StoreError Unit
  /-- Completes a task in progress whose records are through; answers its new state. -/
  complete : Timestamp → TaskId → Action T StoreError (Option TaskState)

/-- What is said about a task once it is completely processed. -/
def processedDescription : String := "Completely processed"

/-- The failure of adding a record whose number is taken. -/
def takenError (id : TaskId) : StoreError := .alreadyExists ("task " ++ id.text)

namespace TaskInfo

/-- The record of a task moved to a state: it starts when it first comes into progress, and ends
when it comes to a terminal state. -/
def moved (now : Timestamp) (target : TaskState) (description : String) (t : TaskInfo) : TaskInfo :=
  { t with
    state := target
    description := description
    startedAt := if target = .processing then t.startedAt <|> some now else t.startedAt
    finishedAt := if target.isTerminal then some now else t.finishedAt }

/-- Whether a task is in progress and its records are through. -/
def isDue (t : TaskInfo) : Bool := t.state = .processing && t.isAccounted

/-- The state in which a task ends: it has failed if there is a reason for it. -/
def verdict (t : TaskInfo) : TaskState := if t.fatal.isSome then .failed else .processed

/-- The record of a completed task. -/
def completed (now : Timestamp) (t : TaskInfo) : TaskInfo :=
  t.moved now t.verdict (t.fatal.getD processedDescription)

end TaskInfo

variable {ρ : Type}

/-- Puts a row among rows in the order of a key, in place of the row of the same key. -/
def placeBy (key : ρ → Int) (row : ρ) : List ρ → List ρ
  | [] => [row]
  | other :: rest =>
      if key row < key other then row :: other :: rest
      else if key other < key row then other :: placeBy key row rest
      else row :: rest

theorem mem_placeBy {key : ρ → Int} {row r : ρ} {rows : List ρ} (h : r ∈ placeBy key row rows) :
    r = row ∨ r ∈ rows := by
  induction rows with
  | nil => simpa [placeBy] using h
  | cons other rest ih =>
    unfold placeBy at h
    split at h
    · simpa using h
    · split at h
      · rcases List.mem_cons.1 h with h | h
        · exact .inr (by simp [h])
        · rcases ih h with h | h
          · exact .inl h
          · exact .inr (by simp [h])
      · rcases List.mem_cons.1 h with h | h
        · exact .inl h
        · exact .inr (by simp [h])

/-- The order of rows survives the placing of a row. -/
theorem pairwise_placeBy {key : ρ → Int} {row : ρ} {rows : List ρ}
    (h : rows.Pairwise fun a b => key a < key b) :
    (placeBy key row rows).Pairwise fun a b => key a < key b := by
  induction rows with
  | nil => simp [placeBy]
  | cons other rest ih =>
    obtain ⟨head, tail⟩ := List.pairwise_cons.1 h
    unfold placeBy
    split
    · rename_i lt
      refine List.pairwise_cons.2 ⟨fun r mem => ?_, h⟩
      rcases List.mem_cons.1 mem with rfl | mem
      · exact lt
      · exact Int.lt_trans lt (head r mem)
    · split
      · rename_i lt
        refine List.pairwise_cons.2 ⟨fun r mem => ?_, ih tail⟩
        rcases mem_placeBy mem with rfl | mem
        · exact lt
        · exact head r mem
      · have same : key row = key other := by omega
        exact List.pairwise_cons.2 ⟨fun r mem => same ▸ head r mem, tail⟩

end Conveyor
