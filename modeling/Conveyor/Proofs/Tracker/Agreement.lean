import Conveyor.Proofs.Time.Column
import Conveyor.Proofs.Tracker.Calls
import Conveyor.Tracker.Table
import Mathlib.Data.List.Nodup

/-!
# Task stores that answer alike

A task store in a table keeps every record as a row of texts and numbers, and its statements work
on that row; a task store in memory works on the record.  To their callers they are the same: the
rows are always those of the records, every statement does to a row what the call in memory does to
its record, and a row is read back as the record if its times are of years with four digits.

* `TaskStore.Call`, `Call.on` — calls on any task store; `answers` is what it answers to some.
* `TaskRow.info_ofInfo`, `TaskRow.moved_ofInfo` and their like — reading and changing the row of a
  record.
* `TaskStore.Agree` and `TaskStore.Alike` — stores that correspond, and calls that do the same to
  them; **`alike_revise`** covers every call that changes one record.
* **`TaskStore.answers_alike`** — empty stores answer all calls alike.

Counts are whole numbers here, so there is nothing to be said of their range.
-/

namespace Conveyor

/-! ## Rows of records -/

namespace TaskInfo

/-- All times of a record are of years with four digits. -/
def HasShortYears (t : TaskInfo) : Prop :=
  t.sentAt.HasShortYear ∧ (∀ time ∈ t.startedAt, time.HasShortYear) ∧
    ∀ time ∈ t.finishedAt, time.HasShortYear

instance (t : TaskInfo) : Decidable t.HasShortYears := inferInstanceAs (Decidable (_ ∧ _ ∧ _))

end TaskInfo

theorem TaskState.name_injective : Function.Injective TaskState.name := by
  intro a b same
  have found := congrArg ofName? same
  rw [ofName?_name, ofName?_name] at found
  exact Option.some.inj found

namespace TaskRow

theorem readTime_column {time : Timestamp} (short : time.HasShortYear) :
    readTime time.column = .ok time := by
  rw [readTime, Rfc3339.readStrict_column short]

theorem readTime_columns {time : Option Timestamp} (short : ∀ t ∈ time, t.HasShortYear) :
    (time.map Timestamp.column).mapM readTime = .ok time := by
  cases time with
  | none => rfl
  | some time =>
    rw [Option.map_some, Option.mapM_some, readTime_column (short time rfl)]
    rfl

/-- **The row of a record is read back** as the record. -/
theorem info_ofInfo {t : TaskInfo} (short : t.HasShortYears) : (ofInfo t).info = .ok t := by
  obtain ⟨sent, started, finished⟩ := short
  have state : readState (ofInfo t).state = .ok t.state := by
    rw [readState, show (ofInfo t).state = t.state.name from rfl, TaskState.ofName?_name]
  have sentAt : readTime (ofInfo t).sentAt = .ok t.sentAt := readTime_column sent
  have startedAt : (ofInfo t).startedAt.mapM readTime = .ok t.startedAt := readTime_columns started
  have finishedAt : (ofInfo t).finishedAt.mapM readTime = .ok t.finishedAt :=
    readTime_columns finished
  rw [info, state, sentAt, startedAt, finishedAt]
  rfl

theorem mapM_info {ts : List TaskInfo} (short : ∀ t ∈ ts, t.HasShortYears) :
    (ts.map ofInfo).mapM info = .ok ts := by
  induction ts with
  | nil => rfl
  | cons t ts ih =>
    rw [List.map_cons, List.mapM_cons, info_ofInfo (short t (by simp)),
      ih fun u mem => short u (by simp [mem])]
    rfl

theorem isIn_ofInfo (states : List TaskState) (t : TaskInfo) :
    (ofInfo t).isIn states = decide (t.state ∈ states) := by
  rw [isIn]
  exact decide_eq_decide.2 (List.mem_map_of_injective TaskState.name_injective)

theorem bump_ofInfo (t : TaskInfo) (counter : Counter) :
    (ofInfo t).bump counter = ofInfo (t.bump counter) := by
  cases counter <;> rfl

/-- A row is moved as its record is. -/
theorem moved_ofInfo (now : Timestamp) (target : TaskState) (description : String) (t : TaskInfo) :
    (ofInfo t).moved now target description = ofInfo (t.moved now target description) := by
  have started : (if target = .processing then (ofInfo t).startedAt <|> some now.column
      else (ofInfo t).startedAt) = (t.moved now target description).startedAt.map
        Timestamp.column := by
    simp only [ofInfo, TaskInfo.moved]
    split
    · cases t.startedAt <;> rfl
    · rfl
  have finished : (if target.isTerminal then some now.column else (ofInfo t).finishedAt)
      = (t.moved now target description).finishedAt.map Timestamp.column := by
    simp only [ofInfo, TaskInfo.moved]
    split <;> rfl
  rw [moved, started, finished]
  rfl

theorem isDue_ofInfo (t : TaskInfo) : (ofInfo t).isDue = t.isDue := by
  have state : (ofInfo t).state = TaskState.processing.name ↔ t.state = .processing :=
    TaskState.name_injective.eq_iff
  simp only [isDue, TaskInfo.isDue, TaskInfo.isAccounted, state, Bool.decide_and, Bool.and_assoc]
  rfl

theorem completed_ofInfo (now : Timestamp) (t : TaskInfo) :
    (ofInfo t).completed now = ofInfo (t.completed now) :=
  moved_ofInfo now t.verdict (t.fatal.getD processedDescription) t

end TaskRow

/-! ## Records by number -/

theorem placeBy_map {ρ ρ' : Type} {key : ρ → Int} {key' : ρ' → Int} (f : ρ → ρ')
    (keeps : ∀ row, key' (f row) = key row) (row : ρ) (rows : List ρ) :
    placeBy key' (f row) (rows.map f) = (placeBy key row rows).map f := by
  induction rows with
  | nil => rfl
  | cons other rest ih =>
    rw [List.map_cons, placeBy, placeBy, keeps, keeps, ih]
    split
    · rfl
    · split <;> rfl

namespace MemoryTasks

variable {s : MemoryTasks} {t u : TaskInfo} {id : TaskId}

/-- No number is given to two records. -/
theorem eq_of_id_eq (ht : t ∈ s.tasks) (hu : u ∈ s.tasks) (same : t.id = u.id) : t = u := by
  have distinct : (s.tasks.map TaskInfo.id).Nodup :=
    List.pairwise_map.2 (s.sorted.imp fun less same => by
      rw [same] at less
      exact Int.lt_irrefl _ less)
  exact List.inj_on_of_nodup_map distinct ht hu same

/-- The record found under a number has it. -/
theorem id_of_find? (here : s.find? id = some t) : t.id = id := by
  rw [find?] at here
  have meant := List.find?_some here
  rwa [decide_eq_true_eq] at meant

/-- A record is found under its own number. -/
theorem mem_iff_find? : t ∈ s.tasks ↔ s.find? t.id = some t := by
  refine ⟨fun mem => ?_, List.mem_of_find?_eq_some⟩
  cases found : s.find? t.id with
  | none => exact absurd (decide_eq_true rfl) (List.find?_eq_none.1 found t mem)
  | some u =>
    exact congrArg some (eq_of_id_eq (List.mem_of_find?_eq_some found) mem (id_of_find? found))

/-- **A store is determined by its look-ups.** -/
theorem ext_find? {s' : MemoryTasks} (h : ∀ id, s.find? id = s'.find? id) : s = s' := by
  have distinct : ∀ a : MemoryTasks, a.tasks.Nodup := by
    refine fun a => a.sorted.imp fun {t u} less same => ?_
    rw [same] at less
    exact Int.lt_irrefl _ less
  have alike : s.tasks.Perm s'.tasks :=
    (List.perm_ext_iff_of_nodup (distinct s) (distinct s')).2 fun t => by
      rw [mem_iff_find?, mem_iff_find?, h]
  obtain ⟨tasks, sorted⟩ := s
  obtain ⟨tasks', sorted'⟩ := s'
  obtain rfl : tasks = tasks' := alike.eq_of_pairwise
    (fun a b _ _ less more => absurd less (Int.not_lt.2 (Int.le_of_lt more))) sorted sorted'
  rfl

/-- The record of a number, provided that it fulfils a condition, is the first record that has the
number and fulfils it. -/
theorem filter_find? (s : MemoryTasks) (id : TaskId) (condition : TaskInfo → Bool) :
    (s.find? id).filter condition = s.tasks.find? fun t => t.id = id && condition t := by
  cases found : s.tasks.find? fun t => t.id = id && condition t with
  | none =>
    have none_meant := List.find?_eq_none.1 found
    rw [Option.filter_eq_none_iff]
    intro t here holds
    refine none_meant t (List.mem_of_find?_eq_some here) ?_
    rw [decide_eq_true (id_of_find? here), holds, Bool.and_true]
  | some t =>
    have meant := List.find?_some found
    rw [Bool.and_eq_true, decide_eq_true_eq] at meant
    have mem := List.mem_of_find?_eq_some found
    have here : s.find? id = some t := by
      cases first : s.find? id with
      | none => exact absurd (decide_eq_true meant.1) (List.find?_eq_none.1 first t mem)
      | some u =>
        have own := id_of_find? first
        exact congrArg some
          (eq_of_id_eq (List.mem_of_find?_eq_some first) mem (own.trans meant.1.symm))
    rw [here, Option.filter_some, if_pos meant.2]

end MemoryTasks

namespace TaskStore

/-! ## Calls on any store -/

/-- What a task store answers. -/
inductive Answer where
  | done
  | found (info : Option TaskInfo)
  | listed (infos : List TaskInfo)
  /-- Whether the call has changed a record. -/
  | changed (yes : Bool)
  /-- The state in which the call completed a task, if it did. -/
  | ended (state : Option TaskState)
deriving DecidableEq

/-- A call of a task store; where the time of day is looked up, with what the clock reads. -/
inductive Call where
  | insert (t : TaskInfo)
  | upsert (t : TaskInfo)
  | find (id : TaskId)
  | list (states : List TaskState)
  | increment (id : TaskId) (counter : Counter)
  | setExpected (id : TaskId) (n : Int)
  | transition (now : Timestamp) (id : TaskId) (sources : List TaskState) (target : TaskState)
      (description : String)
  | recordFatal (id : TaskId) (reason : String)
  | complete (now : Timestamp) (id : TaskId)

/-- A call on a task store of any kind. -/
def Call.on {T : Type} [TaskStore T] : Call → Action T StoreError Answer
  | insert t => do
      TaskStore.insert t
      pure .done
  | upsert t => do
      TaskStore.upsert t
      pure .done
  | find id => do
      let info ← TaskStore.find id
      pure (.found info)
  | list states => do
      let infos ← TaskStore.list states
      pure (.listed infos)
  | increment id counter => do
      let yes ← TaskStore.increment id counter
      pure (.changed yes)
  | setExpected id n => do
      TaskStore.setExpected id n
      pure .done
  | transition now id sources target description => do
      let yes ← TaskStore.transition now id sources target description
      pure (.changed yes)
  | recordFatal id reason => do
      TaskStore.recordFatal id reason
      pure .done
  | complete now id => do
      let state ← TaskStore.complete now id
      pure (.ended state)

/-- What a store answers to calls, one after the other. -/
def answers {T : Type} [TaskStore T] (s : T) : List Call → List (Except StoreError Answer)
  | [] => []
  | c :: later => (c.on s).1 :: answers (c.on s).2 later

/-- Every record that is stored at any time while calls are made. -/
def everStored (s : MemoryTasks) : List Call → List TaskInfo
  | [] => s.tasks
  | c :: later => s.tasks ++ everStored (c.on s).2 later

/-! ## Stores that correspond -/

/-- A table whose rows are those of the records in memory. -/
structure Agree (t : TableTasks) (s : MemoryTasks) : Prop where
  opened : t.closed = false
  rows : t.rows = s.tasks.map TaskRow.ofInfo

/-- Two calls that give the same answer on stores that correspond, and leave stores that do. -/
def Alike {α : Type} (x : Action TableTasks StoreError α) (y : Action MemoryTasks StoreError α) :
    Prop :=
  ∀ t s, Agree t s → (∀ u ∈ s.tasks, u.HasShortYears) → (x t).1 = (y s).1 ∧ Agree (x t).2 (y s).2

section

variable {α β : Type} {x : Action TableTasks StoreError α} {y : Action MemoryTasks StoreError α}

/-- Calls that are alike go on to be so in whatever form their answers are put. -/
theorem Alike.map (h : Alike x y) (form : α → β) :
    Alike (x >>= fun a => pure (form a)) (y >>= fun a => pure (form a)) := by
  intro t s agree short
  obtain ⟨same, next⟩ := h t s agree short
  refine ⟨?_, ?_⟩
  · rw [Action.bind_apply, Action.bind_apply]
    rcases run : x t with ⟨answer, t'⟩
    rcases run' : y s with ⟨answer', s'⟩
    rw [run, run'] at same
    obtain rfl : answer = answer' := same
    cases answer <;> rfl
  · rw [Action.snd_bind_pure, Action.snd_bind_pure]
    exact next

end

/-! ### Placing a record -/

theorem placeBy_rows {t : TableTasks} {s : MemoryTasks} (agree : Agree t s) (u : TaskInfo) :
    placeBy (·.id.value) (.ofInfo u) t.rows = (s.put u).tasks.map TaskRow.ofInfo := by
  rw [agree.rows]
  exact placeBy_map TaskRow.ofInfo (fun _ => rfl) u s.tasks

theorem alike_insert (u : TaskInfo) : Alike (TableTasks.insert u) (MemoryTasks.insert u) := by
  intro t s agree _
  have taken : t.rows.any (·.id = u.id) = (s.find? u.id).isSome := by
    rw [agree.rows, List.any_map, Bool.eq_iff_iff, List.any_eq_true, MemoryTasks.find?,
      List.find?_isSome]
    rfl
  have run := Table.statement_of_open agree.opened fun rows : List TaskRow =>
    if rows.any (·.id = u.id) then (true, rows)
    else (false, placeBy (·.id.value) (.ofInfo u) rows)
  rw [TableTasks.insert, Action.bind_of_ok run, taken, MemoryTasks.insert]
  cases s.find? u.id with
  | some other => exact ⟨rfl, agree.opened, agree.rows⟩
  | none => exact ⟨rfl, agree.opened, placeBy_rows agree u⟩

theorem alike_upsert (u : TaskInfo) :
    Alike (TableTasks.upsert u) (Action.modify (MemoryTasks.put u)) := by
  intro t s agree _
  rw [TableTasks.upsert, Table.statement_of_open agree.opened]
  exact ⟨rfl, agree.opened, placeBy_rows agree u⟩

/-! ### Reading -/

theorem alike_find (id : TaskId) :
    Alike (TableTasks.find id) (Action.gets (MemoryTasks.find? id)) := by
  intro t s agree short
  have first : (t.rows.filter fun row => row.id = id).head? = (s.find? id).map TaskRow.ofInfo := by
    rw [agree.rows, List.head?_filter, List.find?_map]
    rfl
  have read : ((s.find? id).map TaskRow.ofInfo).mapM TaskRow.info = .ok (s.find? id) := by
    cases here : s.find? id with
    | none => rfl
    | some u =>
      rw [Option.map_some, Option.mapM_some,
        TaskRow.info_ofInfo (short u (List.mem_of_find?_eq_some here))]
      rfl
  rw [TableTasks.find, Table.select, Action.bind_of_ok (Table.statement_of_open agree.opened _)]
  refine ⟨?_, agree⟩
  show (t.rows.filter fun row => row.id = id).head?.mapM TaskRow.info = .ok (s.find? id)
  rw [first, read]

theorem alike_list (states : List TaskState) :
    Alike (TableTasks.list states)
      (Action.gets fun s : MemoryTasks => s.tasks.filter (·.state ∈ states)) := by
  intro t s agree short
  unfold TableTasks.list
  split
  · rename_i nothing
    obtain rfl := List.isEmpty_iff.1 nothing
    refine ⟨congrArg Except.ok ?_, agree⟩
    exact (List.filter_eq_nil_iff.2 (by simp)).symm
  · have rows : t.rows.filter (TaskRow.isIn states)
        = (s.tasks.filter (·.state ∈ states)).map TaskRow.ofInfo := by
      rw [agree.rows, List.filter_map]
      exact congrArg _ (List.filter_congr fun u _ => TaskRow.isIn_ofInfo states u)
    rw [Table.select, Action.bind_of_ok (Table.statement_of_open agree.opened _)]
    refine ⟨?_, agree⟩
    show (t.rows.filter (TaskRow.isIn states)).mapM TaskRow.info = _
    rw [rows, TaskRow.mapM_info fun u mem => short u (List.mem_filter.1 mem).1]
    rfl

/-! ### Changing one record -/

section

variable {id : TaskId} {wanted : TaskRow → Bool} {condition : TaskInfo → Bool}
  {change : TaskRow → TaskRow} {a : Amendment}
  (wants : ∀ u, wanted (.ofInfo u) = (decide (u.id = id) && condition u))
  (changes : ∀ u, change (.ofInfo u) = .ofInfo (a.apply u))

include wants changes in
/-- A statement that changes the row of a record leaves the rows of the changed records. -/
theorem Agree.amend {t : TableTasks} {s : MemoryTasks} (agree : Agree t s) :
    Agree { t with rows := t.rows.map fun row => if wanted row then change row else row }
      (s.amend id (a.when condition)) := by
  refine ⟨agree.opened, ?_⟩
  show t.rows.map _ = (s.tasks.map _).map TaskRow.ofInfo
  rw [agree.rows, List.map_map, List.map_map]
  refine List.map_congr_left fun u _ => ?_
  show (if wanted (.ofInfo u) then change (.ofInfo u) else .ofInfo u)
    = TaskRow.ofInfo (if u.id = id then (a.when condition).apply u else u)
  rw [wants, changes, Amendment.when]
  by_cases own : u.id = id <;> by_cases holds : condition u <;> simp [own, holds]

include wants in
theorem Agree.find? {t : TableTasks} {s : MemoryTasks} (agree : Agree t s) :
    t.rows.find? wanted = ((s.find? id).filter condition).map TaskRow.ofInfo := by
  rw [agree.rows, List.find?_map, MemoryTasks.filter_find?]
  exact congrArg _ (congrArg (s.tasks.find? ·) (funext wants))

theorem decide_pos_eq_isSome {n : Nat} {o : Option TaskInfo} (same : 0 < n ↔ o.isSome) :
    decide (0 < n) = o.isSome := by
  rw [decide_eq_decide.2 same, Bool.decide_coe]

include wants changes in
/-- **A statement that changes the row of one record** is like the call that changes the record,
if its condition and its change are those of the record. -/
theorem alike_revise {α : Type} {reply : Nat → α} {answer : Option TaskInfo → α}
    (replies : ∀ {n o}, (0 < n ↔ o.isSome) → reply n = answer o) :
    Alike (Table.revise wanted change >>= fun n => pure (reply n))
      (MemoryTasks.revising id condition a answer) := by
  intro t s agree _
  have found : 0 < t.rows.countP wanted ↔ ((s.find? id).filter condition).isSome := by
    rw [List.countP_pos_iff, ← List.find?_isSome, agree.find? wants, Option.isSome_map]
  rw [Table.revise, Action.bind_of_ok (Table.statement_of_open agree.opened _)]
  exact ⟨congrArg Except.ok (replies found), agree.amend wants changes⟩

end

theorem alike_transition (now : Timestamp) (id : TaskId) (sources : List TaskState)
    (target : TaskState) (description : String) :
    Alike (TableTasks.transition now id sources target description)
      (TaskStore.transition (T := MemoryTasks) now id sources target description) := by
  unfold TableTasks.transition
  split
  · -- The table does not look; in memory no record is in any of no states.
    rename_i nothing
    obtain rfl := List.isEmpty_iff.1 nothing
    intro t s agree _
    have none_in : ∀ u : TaskInfo, decide (u.state ∈ ([] : List TaskState)) = false := by simp
    refine ⟨congrArg Except.ok ?_, agree.opened, ?_⟩
    · show false = ((s.find? id).filter fun u => u.state ∈ []).isSome
      rw [Option.filter_eq_none_iff.2 (by simp), Option.isSome_none]
    · show t.rows = ((s.tasks.map fun u => _).map TaskRow.ofInfo)
      rw [agree.rows]
      refine congrArg _ ?_
      simp [Amendment.when]
  · exact alike_revise (a := .move now target description)
      (fun u => by rw [TaskRow.isIn_ofInfo]; rfl)
      (fun u => TaskRow.moved_ofInfo now target description u) decide_pos_eq_isSome

theorem alike_complete (now : Timestamp) (id : TaskId) :
    Alike (TableTasks.complete now id) (TaskStore.complete (T := MemoryTasks) now id) := by
  intro t s agree _
  have wants : ∀ u : TaskInfo, (decide ((TaskRow.ofInfo u).id = id) && (TaskRow.ofInfo u).isDue)
      = (decide (u.id = id) && u.isDue) := fun u => by rw [TaskRow.isDue_ofInfo]; rfl
  rw [TableTasks.complete, Table.statement_of_open agree.opened]
  refine ⟨congrArg Except.ok ?_,
    agree.amend (a := .complete now) wants (fun u => TaskRow.completed_ofInfo now u)⟩
  show (t.rows.find? _).map TaskRow.verdict = ((s.find? id).filter TaskInfo.isDue).map _
  rw [agree.find? wants, Option.map_map]
  rfl

/-! ## Stores that answer alike -/

/-- **Every call is alike** on a table and in memory. -/
theorem alike_on (c : Call) : Alike c.on c.on := by
  have active : ∀ (id : TaskId) (u : TaskInfo),
      (decide ((TaskRow.ofInfo u).id = id) && (TaskRow.ofInfo u).isIn TaskState.active)
        = (decide (u.id = id) && u.isActive) := by
    intro id u
    rw [TaskRow.isIn_ofInfo, TaskInfo.isActive]
    cases u.state <;> rfl
  cases c with
  | insert u => exact (alike_insert u).map _
  | upsert u => exact (alike_upsert u).map _
  | find id => exact (alike_find id).map _
  | list states => exact (alike_list states).map _
  | increment id counter =>
    exact (alike_revise (a := .bump counter) (active id)
      (fun u => TaskRow.bump_ofInfo u counter)
      decide_pos_eq_isSome).map _
  | setExpected id n =>
    have every : ∀ u : TaskInfo,
        decide ((TaskRow.ofInfo u).id = id) = (decide (u.id = id) && true) := fun u =>
      (Bool.and_true _).symm
    exact (alike_revise (a := .expect n) every (fun _ => rfl) fun _ => rfl).map _
  | transition now id sources target description =>
    exact (alike_transition now id sources target description).map _
  | recordFatal id reason =>
    exact (alike_revise (a := .warn reason) (active id) (fun _ => rfl) fun _ => rfl).map _
  | complete now id => exact (alike_complete now id).map _

/-- **The two stores are interchangeable**: starting empty, a table answers all calls as memory does
whenever every record that comes to be stored has times of years with four digits. -/
theorem answers_alike (calls : List Call)
    (short : ∀ u ∈ everStored MemoryTasks.empty calls, u.HasShortYears) :
    answers (Table.empty : TableTasks) calls = answers MemoryTasks.empty calls := by
  have run : ∀ (calls : List Call) (t : TableTasks) (s : MemoryTasks), Agree t s →
      (∀ u ∈ everStored s calls, u.HasShortYears) → answers t calls = answers s calls := by
    intro calls
    induction calls with
    | nil => exact fun _ _ _ _ => rfl
    | cons c later ih =>
      intro t s agree short
      obtain ⟨same, next⟩ := alike_on c t s agree fun u mem => short u (List.mem_append_left _ mem)
      rw [answers, answers, same, ih _ _ next fun u mem => short u (List.mem_append_right _ mem)]
  exact run calls _ _ ⟨rfl, rfl⟩ short

/-- Calls in an odd order: a task is moved from no state and then back to where it came from, is
completed with a reason to fail noted only after another, and its number is taken twice. -/
def oddCalls : List Call :=
  let task (n : Int) : TaskInfo := .new .epoch ⟨n⟩ "" 1 none
  [.insert (task 7), .insert (task 3), .insert (task 7), .transition .epoch ⟨7⟩ [] .failed "",
    .transition .epoch ⟨7⟩ [.dropped, .pending] .processing "again",
    .transition .epoch ⟨7⟩ TaskState.all .pending "back",
    .transition .epoch ⟨7⟩ TaskState.active .processing "on", .increment ⟨8⟩ .errors,
    .recordFatal ⟨7⟩ "first", .recordFatal ⟨7⟩ "second", .complete .epoch ⟨7⟩,
    .increment ⟨7⟩ .deleted, .complete .epoch ⟨7⟩, .increment ⟨7⟩ .deleted, .find ⟨7⟩,
    .setExpected ⟨7⟩ 0, .upsert (task 5), .list [.failed, .pending], .list []]

theorem answers_oddCalls_alike :
    (∀ u ∈ everStored MemoryTasks.empty oddCalls, u.HasShortYears) ∧
      answers (Table.empty : TableTasks) oddCalls = answers MemoryTasks.empty oddCalls :=
  have short : ∀ u ∈ everStored MemoryTasks.empty oddCalls, u.HasShortYears := by decide +kernel
  ⟨short, answers_alike oddCalls short⟩

end TaskStore

end Conveyor
