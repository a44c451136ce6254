import Conveyor.Tracker.Notification
import Conveyor.Tracker.Store

/-!
# Task progress and notifications in memory

A task store in memory is seen through the look-up of a task's record: every operation is the
amendment of one record, or puts one in its place, and leaves the look-up of all others alone.

* `MemoryTasks` — a task store; `MemoryTasks.find?_put` and `MemoryTasks.find?_amend` say what a
  look-up finds after a change.
* `Amendment` — a change of a record that keeps its number.
* `MemoryNotifications` — a notification sink.
-/

namespace Conveyor

/-! ## Amendments -/

/-- A change of a progress record that keeps its number. -/
structure Amendment where
  apply : TaskInfo → TaskInfo
  id_apply : ∀ t, (apply t).id = t.id

namespace Amendment

/-- The amendment of the records that fulfil a condition; the others stay as they are. -/
def when (condition : TaskInfo → Bool) (a : Amendment) : Amendment where
  apply t := if condition t then a.apply t else t
  id_apply t := by
    split
    · exact a.id_apply t
    · rfl

def bump (counter : Counter) : Amendment where
  apply t := t.bump counter
  id_apply t := by cases counter <;> rfl

def expect (n : Int) : Amendment := ⟨fun t => { t with expected := n }, fun _ => rfl⟩

def move (now : Timestamp) (target : TaskState) (description : String) : Amendment :=
  ⟨TaskInfo.moved now target description, fun _ => rfl⟩

/-- A reason to fail noted, unless there is one already. -/
def warn (reason : String) : Amendment :=
  ⟨fun t => { t with fatal := t.fatal <|> some reason }, fun _ => rfl⟩

def complete (now : Timestamp) : Amendment := ⟨TaskInfo.completed now, fun _ => rfl⟩

end Amendment

/-! ## Tasks -/

/-- The progress records of all tasks, by number. -/
structure MemoryTasks where
  tasks : List TaskInfo
  sorted : tasks.Pairwise fun a b => a.id.value < b.id.value
deriving DecidableEq

namespace MemoryTasks

def empty : MemoryTasks := ⟨[], .nil⟩

def find? (id : TaskId) (s : MemoryTasks) : Option TaskInfo := s.tasks.find? (·.id = id)

def put (t : TaskInfo) (s : MemoryTasks) : MemoryTasks :=
  ⟨placeBy (·.id.value) t s.tasks, pairwise_placeBy s.sorted⟩

/-- The store with the record of a task amended. -/
def amend (id : TaskId) (a : Amendment) (s : MemoryTasks) : MemoryTasks where
  tasks := s.tasks.map fun t => if t.id = id then a.apply t else t
  sorted := by
    refine List.pairwise_map.2 (s.sorted.imp fun {t u} lt => ?_)
    have keeps : ∀ r : TaskInfo, (if r.id = id then a.apply r else r).id = r.id := by
      intro r
      split
      · exact a.id_apply r
      · rfl
    rw [keeps, keeps]
    exact lt

/-- Amends the record of a task if it fulfils a condition, and answers what the record says
before. -/
def revising {α : Type} (id : TaskId) (condition : TaskInfo → Bool) (a : Amendment)
    (answer : Option TaskInfo → α) : Action MemoryTasks StoreError α :=
  .modifyGet fun s => (answer ((s.find? id).filter condition), s.amend id (a.when condition))

/-- Adds a record whose number is free. -/
def insert (t : TaskInfo) : Action MemoryTasks StoreError Unit := fun s =>
  match s.find? t.id with
  | some _ => (.error (takenError t.id), s)
  | none => (.ok (), s.put t)

instance : TaskStore MemoryTasks where
  insert := insert
  upsert t := .modify (put t)
  find id := .gets (find? id)
  list states := .gets fun s => s.tasks.filter (·.state ∈ states)
  increment id counter := revising id TaskInfo.isActive (.bump counter) Option.isSome
  setExpected id n := revising id (fun _ => true) (.expect n) fun _ => ()
  transition now id sources target description :=
    revising id (·.state ∈ sources) (.move now target description) Option.isSome
  recordFatal id reason := revising id TaskInfo.isActive (.warn reason) fun _ => ()
  complete now id := revising id TaskInfo.isDue (.complete now) (Option.map TaskInfo.verdict)

/-! ## What a look-up finds -/

/-- A look-up among placed rows. -/
private theorem find?_placeBy (t : TaskInfo) (id : TaskId) (rows : List TaskInfo) :
    (placeBy (·.id.value) t rows).find? (·.id = id)
      = if t.id = id then some t else rows.find? (·.id = id) := by
  induction rows with
  | nil => by_cases h : t.id = id <;> simp [placeBy, h]
  | cons other rest ih =>
    unfold placeBy
    split
    · by_cases h : t.id = id <;> simp [h]
    · rename_i not_lt
      split
      · rename_i lt
        by_cases ho : other.id = id
        · have apart : t.id ≠ id := by
            intro h
            rw [h, ho] at lt
            exact Int.lt_irrefl _ lt
          simp [ho, apart]
        · simp [ho, ih]
      · rename_i not_gt
        have same : t.id = other.id := by
          have : t.id.value = other.id.value := by omega
          cases h₁ : t.id
          cases h₂ : other.id
          simp_all
        by_cases h : t.id = id
        · simp [h]
        · have : other.id ≠ id := same ▸ h
          simp [h, this]

/-- **A look-up after a record is put** finds that record under its number and the old one
elsewhere. -/
theorem find?_put (t : TaskInfo) (s : MemoryTasks) (id : TaskId) :
    (s.put t).find? id = if t.id = id then some t else s.find? id :=
  find?_placeBy t id s.tasks

/-- **A look-up after an amendment** finds the amended record under its number and the old one
elsewhere. -/
theorem find?_amend (id other : TaskId) (a : Amendment) (s : MemoryTasks) :
    (s.amend id a).find? other
      = if id = other then (s.find? id).map a.apply else s.find? other := by
  show (s.tasks.map fun t => if t.id = id then a.apply t else t).find? (·.id = other)
    = if id = other then (s.tasks.find? (·.id = id)).map a.apply else s.tasks.find? (·.id = other)
  induction s.tasks with
  | nil => simp
  | cons t rest ih =>
    by_cases ht : t.id = id
    · by_cases ho : id = other
      · subst ho
        simp [ht, a.id_apply]
      · have : (a.apply t).id ≠ other := by
          rw [a.id_apply, ht]
          exact ho
        simp_all
    · by_cases ho : t.id = other
      · have : id ≠ other := fun h => ht (ho.trans h.symm)
        simp_all
      · simp_all

end MemoryTasks

/-! ## Notifications -/

/-- All notifications in the order in which they were accepted. -/
structure MemoryNotifications where
  entries : List Notification
deriving DecidableEq

namespace MemoryNotifications

def empty : MemoryNotifications := ⟨[]⟩

instance : NotificationSink MemoryNotifications where
  notify n := .modify fun s => ⟨s.entries ++ [n]⟩
  listOf id := .gets fun s => s.entries.filter (·.taskId = id)

end MemoryNotifications

end Conveyor
