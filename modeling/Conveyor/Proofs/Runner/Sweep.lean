import Conveyor.Monitor
import Conveyor.Proofs.Runner.Handling
import Conveyor.Proofs.Tracker.Agreement

/-!
# What a sweep fails, and what it asks

A sweep goes through the tasks in progress by number.  At each it needs to know of the task's run
whether it is alive, and asks the registry unless it got an answer on that run before.  So what a
sweep does is told from the questions it puts and the answers it gets, which may differ from one
question to the next: a task is abandoned if the first answer on its run came no later than at that
task and was that the run is gone.

* `Question` — a question with its answer, if there was one; `firstHeard` is the first on a run that
  was answered, and `isAbandoned` tells from them whether a task is abandoned.
* `Inquiry` — the questions that are put for some tasks; `Inquiry.ask` is one question more, and
  **`livenessOf_inquires`** what is known of a run by then.
* `Failing` — the abandoned ones of some tasks failed; **`Failing.fail`** is one task more.
* `Midway` — a sweep that has dealt with some tasks; **`Midway.step`** is one task more, and
  `Midway.run` all that are left.
* `Swept`, **`sweep_fails_abandoned`** — a whole sweep, and a second one under a registry whose
  answers do not change.
-/

namespace Conveyor

/-- A question to the registry of runs: at which task it was put, about which run, and what the
answer was, if there was one. -/
structure Question where
  task : TaskId
  owner : String
  answer : Option Bool
deriving DecidableEq

namespace Monitor

variable {V : Type}

/-! ## Questions -/

/-- Questions that were put in turn got their answers, and left the services like that. -/
def Asked (registry : RunRegistry V) : List Question → V → V → Prop
  | [], v, v' => v' = v
  | q :: later, v, v' => (registry.isActive q.owner v).1.toOption = q.answer ∧
      Asked registry later (registry.isActive q.owner v).2 v'

/-- The first question about a run that was answered. -/
def firstHeard (asked : List Question) (owner : String) : Option Question :=
  asked.find? fun q => q.owner = owner && q.answer.isSome

/-- Whether a task is in progress and abandoned: the first answer on its run, got at that task or
an earlier one, was that the run is gone. -/
def isAbandoned (asked : List Question) (t : TaskInfo) : Bool :=
  t.state = .processing && (t.owner.bind (firstHeard asked)).any fun q =>
    q.answer = some false && q.task.value ≤ t.id.value

/-- The record of a task that is failed because its run is gone. -/
def abandoned (now : Timestamp) (owner : String) (t : TaskInfo) : TaskInfo :=
  { t with state := .failed, description := goneReason owner, finishedAt := some now }

section

variable {registry : RunRegistry V} {asked : List Question} {q first : Question} {owner : String}
  {v v' : V} {t : TaskInfo}

theorem Asked.snoc (h : Asked registry asked v v')
    (answer : (registry.isActive q.owner v').1.toOption = q.answer) :
    Asked registry (asked ++ [q]) v (registry.isActive q.owner v').2 := by
  induction asked generalizing v with
  | nil =>
    obtain rfl : v' = v := h
    exact ⟨answer, rfl⟩
  | cons _ later ih => exact ⟨h.1, ih h.2⟩

theorem Asked.answer_eq {alive : String → Bool}
    (steady : ∀ owner v, (registry.isActive owner v).1 = .ok (alive owner))
    (h : Asked registry asked v v') : ∀ q ∈ asked, q.answer = some (alive q.owner) := by
  induction asked generalizing v with
  | nil => exact fun _ => nofun
  | cons _ later ih =>
    refine List.forall_mem_cons.2 ⟨?_, ih h.2⟩
    rw [← h.1, steady]
    rfl

theorem firstHeard_append (asked : List Question) (q : Question) (owner : String) :
    firstHeard (asked ++ [q]) owner
      = (firstHeard asked owner).or
          (if q.owner = owner ∧ q.answer.isSome then some q else none) := by
  rw [firstHeard, firstHeard, List.find?_append, List.find?_singleton]
  simp

theorem mem_of_firstHeard (h : firstHeard asked owner = some first) : first ∈ asked :=
  List.mem_of_find?_eq_some h

theorem owner_of_firstHeard (h : firstHeard asked owner = some first) :
    first.owner = owner ∧ first.answer.isSome = true := by
  simpa using List.find?_some h

theorem isAbandoned_iff (running : t.state = .processing) (owned : t.owner = some owner) :
    isAbandoned asked t = true ↔ ∃ q, firstHeard asked owner = some q ∧
      q.answer = some false ∧ q.task.value ≤ t.id.value := by
  simp [isAbandoned, running, owned, Option.any_eq_true]

theorem isAbandoned_of_unowned (owned : t.owner = none) : isAbandoned asked t = false := by
  simp [isAbandoned, owned]

/-- A later question does not change whether a task is abandoned. -/
theorem isAbandoned_append (later : t.id.value < q.task.value) :
    isAbandoned (asked ++ [q]) t = isAbandoned asked t := by
  rw [isAbandoned, isAbandoned]
  cases t.owner with
  | none => rfl
  | some owner =>
    rw [Option.bind_some, Option.bind_some, firstHeard_append]
    cases firstHeard asked owner with
    | some _ => rfl
    | none =>
      split
      · simp [Int.not_le.2 later]
      · rfl

end

/-! ## The questions for some tasks -/

/-- The questions that are put for some tasks, one after the other. -/
structure Inquiry (registry : RunRegistry V) (seen : List TaskInfo) (asked : List Question)
    (v v' : V) : Prop where
  answered : Asked registry asked v v'
  /-- At most one is put at a task. -/
  inOrder : asked.Pairwise fun q q' => q.task.value < q'.task.value
  concerned : ∀ q ∈ asked, ∃ t ∈ seen, t.id = q.task ∧ t.owner = some q.owner
  /-- None is put about a run after the first answer. -/
  once : ∀ q ∈ asked, ∀ first, firstHeard asked q.owner = some first →
    q.task.value ≤ first.task.value
  /-- One is put at every task of a run of which nothing was heard at an earlier task. -/
  complete : ∀ t ∈ seen, ∀ owner, t.owner = some owner → (∃ q ∈ asked, q.task = t.id) ∨
    ∃ first, firstHeard asked owner = some first ∧ first.task.value < t.id.value

/-- What is known is what was heard first. -/
def Heard (known : Dict Bool) (asked : List Question) : Prop :=
  ∀ owner, known.get? owner = (firstHeard asked owner).bind (·.answer)

section

variable {registry : RunRegistry V} {seen : List TaskInfo} {asked : List Question} {v v' : V}
  {t : TaskInfo} {owner : String} {known : Dict Bool}

theorem Inquiry.task_lt (h : Inquiry registry seen asked v v')
    (later : ∀ u ∈ seen, u.id.value < t.id.value) : ∀ q ∈ asked, q.task.value < t.id.value := by
  intro q mem
  obtain ⟨u, seen, same, -⟩ := h.concerned q mem
  exact same ▸ later u seen

/-- A task at which no question is put. -/
theorem Inquiry.skip (h : Inquiry registry seen asked v v')
    (heard : ∀ owner, t.owner = some owner → ∃ first, firstHeard asked owner = some first ∧
      first.task.value < t.id.value) : Inquiry registry (seen ++ [t]) asked v v' where
  answered := h.answered
  inOrder := h.inOrder
  concerned q mem := by
    obtain ⟨u, seen, own⟩ := h.concerned q mem
    exact ⟨u, List.mem_append_left _ seen, own⟩
  once := h.once
  complete u mem := by
    rcases List.mem_append.1 mem with seen | last
    · exact h.complete u seen
    · obtain rfl := List.mem_singleton.1 last
      exact fun owner owned => .inr (heard owner owned)

/-- **A task at which a question is put.** -/
theorem Inquiry.ask (h : Inquiry registry seen asked v v')
    (later : ∀ u ∈ seen, u.id.value < t.id.value) (owned : t.owner = some owner)
    (unheard : firstHeard asked owner = none) :
    Inquiry registry (seen ++ [t])
      (asked ++ [⟨t.id, owner, (registry.isActive owner v').1.toOption⟩]) v
      (registry.isActive owner v').2 where
  answered := h.answered.snoc rfl
  inOrder := by
    refine List.pairwise_append.2 ⟨h.inOrder, List.pairwise_singleton .., fun q mem q' last => ?_⟩
    obtain rfl := List.mem_singleton.1 last
    exact h.task_lt later q mem
  concerned q mem := by
    rcases List.mem_append.1 mem with mem | last
    · obtain ⟨u, seen, own⟩ := h.concerned q mem
      exact ⟨u, List.mem_append_left _ seen, own⟩
    · obtain rfl := List.mem_singleton.1 last
      exact ⟨t, by simp, rfl, owned⟩
  once q mem first heard := by
    -- the new question is the last, so only an answer to it could come after others
    rw [firstHeard_append] at heard
    rcases Option.or_eq_some_iff.1 heard with before | ⟨-, last⟩
    · rcases List.mem_append.1 mem with mem | last
      · exact h.once q mem first before
      · obtain rfl := List.mem_singleton.1 last
        rw [unheard] at before
        cases before
    · split at last
      · obtain rfl := Option.some.inj last
        rcases List.mem_append.1 mem with mem | last
        · exact Int.le_of_lt (h.task_lt later q mem)
        · obtain rfl := List.mem_singleton.1 last
          exact Int.le_refl _
      · cases last
  complete u mem own owned' := by
    rcases List.mem_append.1 mem with seen | last
    · rcases h.complete u seen own owned' with ⟨q, mem, here⟩ | ⟨first, heard, earlier⟩
      · exact .inl ⟨q, List.mem_append_left _ mem, here⟩
      · exact .inr ⟨first, by rw [firstHeard_append, heard, Option.some_or], earlier⟩
    · obtain rfl := List.mem_singleton.1 last
      exact .inl ⟨_, List.mem_append_right _ (List.mem_singleton_self _), rfl⟩

/-- What is known once one more answer came. -/
theorem Heard.snoc (h : Heard known asked) (unheard : firstHeard asked owner = none) (id : TaskId)
    (alive : Bool) : Heard (known.insert owner alive) (asked ++ [⟨id, owner, some alive⟩]) := by
  intro other
  rw [Dict.get?_insert, firstHeard_append]
  by_cases same : owner = other
  · subst same
    simp [unheard]
  · rw [if_neg same, h other]
    simp [same]

/-- What is known if no answer came. -/
theorem Heard.unanswered (h : Heard known asked) (id : TaskId) (owner : String) :
    Heard known (asked ++ [⟨id, owner, none⟩]) := by
  intro other
  rw [firstHeard_append, h other]
  simp

theorem Heard.exists_first (h : Heard known asked) {alive : Bool}
    (here : known.get? owner = some alive) :
    ∃ first, firstHeard asked owner = some first ∧ first.answer = some alive :=
  Option.bind_eq_some_iff.1 ((h owner).symm.trans here)

theorem Heard.firstHeard_eq_none (h : Heard known asked) (here : known.get? owner = none) :
    firstHeard asked owner = none := by
  cases first : firstHeard asked owner with
  | none => rfl
  | some q =>
    have answered := (owner_of_firstHeard first).2
    rw [h owner, first, Option.bind_some] at here
    rw [here] at answered
    cases answered

end

/-! ## Whether a run is alive -/

section

variable {registry : RunRegistry V} {seen : List TaskInfo} {asked : List Question} {v : V}
  {t : TaskInfo} {owner : String} {known : Dict Bool} {p : MemoryPlant V}

theorem livenessOf_of_known {alive : Bool} (registry : RunRegistry V) (p : MemoryPlant V)
    (here : known.get? owner = some alive) :
    livenessOf registry known owner p = (.ok (some alive, known), p) := by
  rw [livenessOf, here]
  rfl

theorem livenessOf_of_unknown (registry : RunRegistry V) (p : MemoryPlant V)
    (here : known.get? owner = none) :
    livenessOf registry known owner p
      = (.ok ((registry.isActive owner p.services).1.toOption,
          ((registry.isActive owner p.services).1.toOption.map (known.insert owner)).getD known),
        { p with services := (registry.isActive owner p.services).2 }) := by
  rw [livenessOf, here]
  simp only [Action.bind_of_ok (Action.attempt_apply ..)]
  rw [Plant.onServices, Action.on_apply,
    show Plant.servicesPart.get p = p.services from rfl]
  cases (registry.isActive owner p.services).1 <;> rfl

/-- **What a sweep knows of the run of a task**, once it comes to the task: it goes by an answer that
it got before, else by the registry. -/
theorem livenessOf_inquires (h : Inquiry registry seen asked v p.services)
    (heard : Heard known asked) (later : ∀ u ∈ seen, u.id.value < t.id.value)
    (running : t.state = .processing) (owned : t.owner = some owner) :
    ∃ alive known' asked' v',
      livenessOf registry known owner p = (.ok (alive, known'), { p with services := v' }) ∧
      Inquiry registry (seen ++ [t]) asked' v v' ∧ Heard known' asked' ∧
      (isAbandoned asked' t = true ↔ alive = some false) ∧
      ∀ u ∈ seen, isAbandoned asked' u = isAbandoned asked u := by
  cases here : known.get? owner with
  | some alive =>
    obtain ⟨first, firstHere, answer⟩ := heard.exists_first here
    have earlier : first.task.value < t.id.value :=
      h.task_lt later first (mem_of_firstHeard firstHere)
    refine ⟨_, _, asked, _, livenessOf_of_known registry p here, h.skip fun other own => ?_, heard,
      ?_, fun _ _ => rfl⟩
    · obtain rfl : owner = other := Option.some.inj (owned.symm.trans own)
      exact ⟨first, firstHere, earlier⟩
    · rw [isAbandoned_iff running owned]
      constructor
      · rintro ⟨q, same, gone, -⟩
        obtain rfl := Option.some.inj (firstHere.symm.trans same)
        exact answer.symm.trans gone
      · exact fun gone => ⟨first, firstHere, answer.trans gone, Int.le_of_lt earlier⟩
  | none =>
    have unheard := heard.firstHeard_eq_none here
    refine ⟨_, _, _, _, livenessOf_of_unknown registry p here, h.ask later owned unheard, ?_, ?_,
      fun u mem => isAbandoned_append (later u mem)⟩
    · cases (registry.isActive owner p.services).1 with
      | ok alive => exact heard.snoc unheard t.id alive
      | error err => exact heard.unanswered t.id owner
    · rw [isAbandoned_iff running owned, firstHeard_append, unheard]
      cases (registry.isActive owner p.services).1 with
      | ok alive => simp [Except.toOption]
      | error err => simp [Except.toOption]

end

/-! ## Failing the abandoned tasks -/

/-- The abandoned ones of some tasks were failed, and they are some number. -/
structure Failing (p : MemoryPlant V) (seen : List TaskInfo) (asked : List Question) (n : Nat)
    (p' : MemoryPlant V) : Prop where
  failed : ∀ t ∈ seen, isAbandoned asked t = true → ∃ owner now, t.owner = some owner ∧
    p'.progress t.id = some (abandoned now owner t)
  kept : ∀ id, (∀ t ∈ seen, t.id = id → isAbandoned asked t = false) →
    p'.progress id = p.progress id
  number : n = seen.countP (isAbandoned asked)
  queue : p'.queue = p.queue
  entries : p'.entries = p.entries

section

variable {seen : List TaskInfo} {asked asked' : List Question} {n : Nat} {t : TaskInfo}
  {owner : String} {p p' : MemoryPlant V}

theorem countP_snoc (same : ∀ u ∈ seen, isAbandoned asked' u = isAbandoned asked u) :
    (seen ++ [t]).countP (isAbandoned asked')
      = seen.countP (isAbandoned asked) + if isAbandoned asked' t then 1 else 0 := by
  rw [List.countP_append, List.countP_congr fun u seen => by rw [same u seen],
    List.countP_singleton]

/-- A task that is not abandoned. -/
theorem Failing.skip (h : Failing p seen asked n p') (v : V)
    (same : ∀ u ∈ seen, isAbandoned asked' u = isAbandoned asked u)
    (cared : isAbandoned asked' t = false) :
    Failing p (seen ++ [t]) asked' n { p' with services := v } where
  failed u mem gone := by
    rcases List.mem_append.1 mem with seen | last
    · exact h.failed u seen (same u seen ▸ gone)
    · obtain rfl := List.mem_singleton.1 last
      rw [cared] at gone
      cases gone
  kept id apart := h.kept id fun u seen own => same u seen ▸ apart u (by simp [seen]) own
  number := by
    rw [countP_snoc same, ← h.number, cared]
    rfl
  queue := h.queue
  entries := h.entries

/-- A task that a sweep has not come to is as it was. -/
theorem Failing.progress_eq (h : Failing p seen asked n p')
    (later : ∀ u ∈ seen, u.id.value < t.id.value) : p'.progress t.id = p.progress t.id :=
  h.kept t.id fun u seen own => absurd (own ▸ later u seen) (Int.lt_irrefl _)

theorem progress_failTask (found : p.progress t.id = some t) (running : t.state = .processing)
    (now : Timestamp) (owner : String) :
    (p.told (.failTask now t.id (goneReason owner))).progress t.id
      = some (abandoned now owner t) := by
  have own : (Tracker.Call.failTask now t.id (goneReason owner)).task = t.id := rfl
  rw [Plant.progress_told, if_pos own, found]
  show some (Tracker.Change.revise _ now t) = _
  simp [Tracker.Change.revise, Tracker.Change.checks, Tracker.Change.own, Tracker.Change.amendment,
    Amendment.when, Amendment.move, TaskInfo.moved, running, TaskState.active,
    TaskState.isTerminal, abandoned]

/-- **A task that is abandoned** is failed. -/
theorem Failing.fail (h : Failing p seen asked n p') (v : V) (now : Timestamp)
    (same : ∀ u ∈ seen, isAbandoned asked' u = isAbandoned asked u)
    (gone : isAbandoned asked' t = true) (later : ∀ u ∈ seen, u.id.value < t.id.value)
    (found : p.progress t.id = some t) (running : t.state = .processing)
    (owned : t.owner = some owner) :
    Failing p (seen ++ [t]) asked' (n + 1)
      (({ p' with services := v } : MemoryPlant V).told
        (.failTask now t.id (goneReason owner))) := by
  have apart : ∀ u ∈ seen, t.id ≠ u.id := fun u seen same =>
    Int.lt_irrefl _ (same ▸ later u seen)
  have elsewhere : ∀ id, t.id ≠ id → (({ p' with services := v } : MemoryPlant V).told
      (.failTask now t.id (goneReason owner))).progress id = p'.progress id :=
    fun id other => (Plant.progress_told ..).trans (if_neg other)
  have here : p'.progress t.id = some t := (h.progress_eq later).trans found
  constructor
  case failed =>
    intro u mem gone'
    rcases List.mem_append.1 mem with seen | last
    · rw [elsewhere u.id (apart u seen)]
      exact h.failed u seen (same u seen ▸ gone')
    · obtain rfl := List.mem_singleton.1 last
      exact ⟨owner, now, owned, progress_failTask here running now owner⟩
  case kept =>
    intro id cared
    have other : t.id ≠ id := by
      intro own
      have := cared t (by simp) own
      rw [gone] at this
      cases this
    rw [elsewhere id other]
    exact h.kept id fun u seen own => same u seen ▸ cared u (by simp [seen]) own
  case number => rw [countP_snoc same, ← h.number, if_pos gone]
  case queue => exact h.queue
  case entries =>
    rw [Plant.entries_told]
    exact (List.append_nil _).trans h.entries

/-- A task in progress can be failed. -/
theorem report_failTask [Clock V] (found : p.progress t.id = some t)
    (running : t.state = .processing) (reason : String) :
    Plant.report (fun now => Tracker.failTask now t.id reason) p
      = (.ok true, p.told (.failTask (Clock.now p) t.id reason)) := by
  refine Plant.report_of_ok p ?_
  obtain ⟨answer, run⟩ := Tracker.Call.run_of_map
    (x := Tracker.failTask (Clock.now p) t.id reason)
    (c := .failTask (Clock.now p) t.id reason) rfl rfl p.tracker
  obtain ⟨_, moved, -⟩ := Tracker.revises_transition (Clock.now p) t.id TaskState.active .failed
    reason p.tracker
  have active : (p.tracker.progress t.id).any (·.state ∈ TaskState.active) = true := by
    rw [show p.tracker.progress t.id = some t from found]
    simp [running, TaskState.active]
  have yes : answer = true :=
    (Except.ok.inj (congrArg Prod.fst (run.symm.trans moved))).trans active
  rw [run, yes]

end

/-! ## One task after the other -/

/-- A sweep that has dealt with some tasks. -/
structure Midway (registry : RunRegistry V) (p : MemoryPlant V) (seen : List TaskInfo)
    (asked : List Question) (known : Dict Bool) (n : Nat) (p' : MemoryPlant V) : Prop where
  inquiry : Inquiry registry seen asked p.services p'.services
  heard : Heard known asked
  failing : Failing p seen asked n p'

section

variable [Clock V] {registry : RunRegistry V} {p₀ p : MemoryPlant V} {seen : List TaskInfo}
  {asked : List Question} {known : Dict Bool} {n : Nat} {t : TaskInfo}

/-- **One task of a sweep.** -/
theorem Midway.step (h : Midway registry p₀ seen asked known n p)
    (later : ∀ u ∈ seen, u.id.value < t.id.value) (found : p₀.progress t.id = some t)
    (running : t.state = .processing) : ∃ asked' known' d p',
      Midway registry p₀ (seen ++ [t]) asked' known' (n + d) p' ∧
      ∀ rest, sweepTasks registry (t :: rest) known p
        = (sweepTasks registry rest known' >>= fun others => pure (others + d)) p' := by
  cases owned : t.owner with
  | none =>
    have unowned : ∀ owner, t.owner ≠ some owner := by simp [owned]
    refine ⟨asked, known, 0, p, ⟨h.inquiry.skip fun owner own => absurd own (unowned owner), h.heard,
      h.failing.skip p.services (fun _ _ => rfl) (isAbandoned_of_unowned owned)⟩, fun rest => ?_⟩
    rw [sweepTasks, owned]
    simp
  | some owner =>
    obtain ⟨alive, known', asked', v, liveness, inquiry, heard, gone, same⟩ :=
      livenessOf_inquires h.inquiry h.heard later running owned
    have here : ({ p with services := v } : MemoryPlant V).progress t.id = some t :=
      (h.failing.progress_eq later).trans found
    by_cases dead : alive = some false
    · refine ⟨asked', known', 1, _, ⟨inquiry, heard, h.failing.fail v
        (Clock.now ({ p with services := v } : MemoryPlant V)) same (gone.2 dead) later found running
        owned⟩, fun rest => ?_⟩
      rw [sweepTasks, owned]
      simp only
      rw [Action.bind_of_ok liveness]
      simp only [dead, if_true]
      rw [Action.bind_of_ok (report_failTask here running (goneReason owner))]
      rfl
    · refine ⟨asked', known', 0, _, ⟨inquiry, heard, h.failing.skip v same
        (Bool.eq_false_iff.2 (mt gone.1 dead))⟩, fun rest => ?_⟩
      rw [sweepTasks, owned]
      simp only
      rw [Action.bind_of_ok liveness]
      simp [dead]

/-- **All tasks of a sweep.** -/
theorem Midway.run (rest : List TaskInfo) (h : Midway registry p₀ seen asked known n p)
    (sorted : (seen ++ rest).Pairwise fun t u => t.id.value < u.id.value)
    (stored : ∀ t ∈ rest, p₀.progress t.id = some t ∧ t.state = .processing) :
    ∃ asked' known' m p', sweepTasks registry rest known p = (.ok m, p') ∧
      Midway registry p₀ (seen ++ rest) asked' known' (n + m) p' := by
  -- what is left gets shorter while what was seen grows at its end, with all that was asked there
  induction rest generalizing seen asked known n p with
  | nil =>
    refine ⟨asked, known, 0, p, rfl, ?_⟩
    rwa [List.append_nil]
  | cons t rest ih =>
    obtain ⟨found, running⟩ := stored t (List.mem_cons_self ..)
    obtain ⟨asked₁, known₁, d, p₁, midway, step⟩ := h.step (fun u mem =>
      (List.pairwise_append.1 sorted).2.2 u mem t (List.mem_cons_self ..)) found running
    have split : seen ++ t :: rest = (seen ++ [t]) ++ rest := by simp
    rw [split] at sorted ⊢
    obtain ⟨asked', known', m, p', run, ends⟩ := ih midway sorted fun u mem =>
      stored u (List.mem_cons_of_mem _ mem)
    refine ⟨asked', known', m + d, p', ?_, ?_⟩
    · rw [step, Action.bind_of_ok run]
      rfl
    · rwa [Nat.add_comm m d, ← Nat.add_assoc]

end

/-! ## A whole sweep -/

/-- The tasks in progress, by number. -/
def running (p : MemoryPlant V) : List TaskInfo :=
  p.tracker.tasks.tasks.filter fun t => t.state = .processing

/-- What a sweep asks, answers and leaves. -/
structure Swept (registry : RunRegistry V) (p : MemoryPlant V) (asked : List Question)
    (answer : Except StoreError Nat) (p' : MemoryPlant V) : Prop where
  inquiry : Inquiry registry (running p) asked p.services p'.services
  /-- Every abandoned task was failed, for the reason that its run is gone. -/
  failed : ∀ id t, p.progress id = some t → isAbandoned asked t = true →
    ∃ owner now, t.owner = some owner ∧ p'.progress id = some (abandoned now owner t)
  /-- Every other task is as it was. -/
  kept : ∀ id, (∀ t, p.progress id = some t → isAbandoned asked t = false) →
    p'.progress id = p.progress id
  /-- The answer is the number of tasks that are not as they were. -/
  number : answer = .ok (p.tracker.tasks.tasks.countP fun t => p'.progress t.id ≠ some t)
  queue : p'.queue = p.queue
  entries : p'.entries = p.entries

section

variable {registry : RunRegistry V} {p p' p'' : MemoryPlant V} {asked asked' : List Question}
  {n : Nat} {t : TaskInfo} {id : TaskId} {answer : Except StoreError Nat}

theorem mem_running : t ∈ running p ↔ p.progress t.id = some t ∧ t.state = .processing := by
  rw [running, List.mem_filter, MemoryTasks.mem_iff_find?, decide_eq_true_eq]
  rfl

theorem id_of_progress (found : p.progress id = some t) : t.id = id :=
  MemoryTasks.id_of_find? found

theorem running_of_isAbandoned (h : isAbandoned asked t = true) : t.state = .processing := by
  rw [isAbandoned, Bool.and_eq_true] at h
  exact of_decide_eq_true h.1

/-- The tasks that are not as they were are the abandoned ones. -/
theorem Failing.swept (h : Failing p (running p) asked n p')
    (inquiry : Inquiry registry (running p) asked p.services p'.services) :
    Swept registry p asked (.ok n) p' := by
  have failed : ∀ id t, p.progress id = some t → isAbandoned asked t = true →
      ∃ owner now, t.owner = some owner ∧ p'.progress id = some (abandoned now owner t) := by
    intro id t found gone
    obtain rfl := id_of_progress found
    exact h.failed t (mem_running.2 ⟨found, running_of_isAbandoned gone⟩) gone
  have kept : ∀ id, (∀ t, p.progress id = some t → isAbandoned asked t = false) →
      p'.progress id = p.progress id := by
    refine fun id cared => h.kept id fun t mem own => cared t ?_
    exact own ▸ (mem_running.1 mem).1
  have changed : ∀ t ∈ p.tracker.tasks.tasks,
      isAbandoned asked t = true ↔ decide (p'.progress t.id ≠ some t) = true := by
    intro t mem
    have found : p.progress t.id = some t := MemoryTasks.mem_iff_find?.1 mem
    rw [decide_eq_true_eq]
    constructor
    · intro gone same
      obtain ⟨owner, now, -, failed⟩ := failed t.id t found gone
      have := congrArg TaskInfo.state (Option.some.inj (failed.symm.trans same))
      rw [running_of_isAbandoned gone] at this
      cases this
    · refine fun other => Bool.not_eq_false _ ▸ fun cared => other ?_
      refine (kept t.id fun u here => ?_).trans found
      rwa [← Option.some.inj (found.symm.trans here)]
  refine ⟨inquiry, failed, kept, ?_, h.queue, h.entries⟩
  have all : (running p).countP (isAbandoned asked)
      = p.tracker.tasks.tasks.countP (isAbandoned asked) := by
    rw [running, List.countP_filter]
    refine List.countP_congr fun t _ => ?_
    rw [Bool.and_eq_true, decide_eq_true_eq]
    exact ⟨And.left, fun gone => ⟨gone, running_of_isAbandoned gone⟩⟩
  rw [h.number, all, List.countP_congr changed]

/-- What was heard first was heard no later than anything else. -/
theorem Inquiry.exists_first {seen : List TaskInfo} {v v' : V} {q : Question}
    (h : Inquiry registry seen asked v v') (mem : q ∈ asked) (answered : q.answer.isSome = true) :
    ∃ first, firstHeard asked q.owner = some first ∧ first.task.value ≤ q.task.value := by
  cases heard : firstHeard asked q.owner with
  | none =>
    have unheard := List.find?_eq_none.1 heard q mem
    simp [answered] at unheard
  | some first =>
    obtain ⟨-, before, after, rfl, unheard⟩ := List.find?_eq_some_iff_append.1 heard
    refine ⟨first, rfl, ?_⟩
    rcases List.mem_append.1 mem with mem | mem
    · have := unheard q mem
      simp [answered] at this
    · rcases List.mem_cons.1 mem with rfl | mem
      · exact Int.le_refl _
      · have order := (List.pairwise_append.1 h.inOrder).2.1
        exact Int.le_of_lt ((List.pairwise_cons.1 order).1 q mem)

/-- If every question is answered, every task knows of its run by its turn. -/
theorem Inquiry.exists_heard {v v' : V} {owner : String}
    (h : Inquiry registry (running p) asked v v') (answered : ∀ q ∈ asked, q.answer.isSome = true)
    (mem : t ∈ running p) (owned : t.owner = some owner) :
    ∃ first, firstHeard asked owner = some first ∧ first.task.value ≤ t.id.value := by
  rcases h.complete t mem owner owned with ⟨q, asked, here⟩ | ⟨first, heard, earlier⟩
  · obtain ⟨u, member, own, owned'⟩ := h.concerned q asked
    have found := (mem_running.1 member).1
    rw [own, here, (mem_running.1 mem).1] at found
    obtain rfl := Option.some.inj found
    obtain rfl : q.owner = owner := Option.some.inj (owned'.symm.trans owned)
    exact here ▸ h.exists_first asked (answered q asked)
  · exact ⟨first, heard, Int.le_of_lt earlier⟩

/-- A task that is still in progress after a sweep was so before, and is not abandoned. -/
theorem Swept.before_of_running (h : Swept registry p asked answer p')
    (found : p'.progress t.id = some t) (running : t.state = .processing) :
    p.progress t.id = some t ∧ isAbandoned asked t = false := by
  have cared : ∀ u, p.progress t.id = some u → isAbandoned asked u = false := by
    refine fun u before => Bool.eq_false_iff.2 fun gone => ?_
    obtain ⟨_, _, -, failed⟩ := h.failed t.id u before gone
    rw [← Option.some.inj (failed.symm.trans found)] at running
    cases running
  have before : p.progress t.id = some t := (h.kept t.id cared).symm.trans found
  exact ⟨before, cared t before⟩

/-- Under a registry whose answers do not change, a sweep leaves no task in progress whose run is
gone. -/
theorem Swept.alive_of_running (h : Swept registry p asked answer p') {alive : String → Bool}
    (steady : ∀ owner v, (registry.isActive owner v).1 = .ok (alive owner))
    (found : p'.progress t.id = some t) (running : t.state = .processing) {owner : String}
    (owned : t.owner = some owner) : alive owner = true := by
  have answers := h.inquiry.answered.answer_eq steady
  obtain ⟨before, cared⟩ := h.before_of_running found running
  obtain ⟨first, heard, inTime⟩ := h.inquiry.exists_heard
    (fun q mem => by rw [answers q mem]; rfl) (mem_running.2 ⟨before, running⟩) owned
  have answer := answers first (mem_of_firstHeard heard)
  rw [(owner_of_firstHeard heard).1] at answer
  refine Bool.not_eq_false _ ▸ fun gone => ?_
  have := (isAbandoned_iff running owned).2 ⟨first, heard, gone ▸ answer, inTime⟩
  rw [cared] at this
  cases this

/-- **A second sweep** under such a registry changes nothing. -/
theorem Swept.again (h : Swept registry p asked answer p') {alive : String → Bool}
    (steady : ∀ owner v, (registry.isActive owner v).1 = .ok (alive owner))
    {answer' : Except StoreError Nat} (h' : Swept registry p' asked' answer' p'') :
    answer' = .ok 0 ∧ p'' = { p' with services := p''.services } := by
  have kept : ∀ id, p''.progress id = p'.progress id := by
    refine fun id => h'.kept id fun t found => Bool.eq_false_iff.2 fun gone => ?_
    obtain rfl := id_of_progress found
    have running := running_of_isAbandoned gone
    cases owned : t.owner with
    | none =>
      rw [isAbandoned_of_unowned owned] at gone
      cases gone
    | some owner =>
      obtain ⟨first, heard, dead, -⟩ := (isAbandoned_iff running owned).1 gone
      have answer := h'.inquiry.answered.answer_eq steady first (mem_of_firstHeard heard)
      rw [(owner_of_firstHeard heard).1, h.alive_of_running steady found running owned, dead]
        at answer
      cases answer
  constructor
  · rw [h'.number]
    refine congrArg Except.ok (List.countP_eq_zero.2 fun t mem => ?_)
    rw [kept t.id, show p'.progress t.id = some t from MemoryTasks.mem_iff_find?.1 mem]
    simp
  · have tasks : p''.tracker.tasks = p'.tracker.tasks := MemoryTasks.ext_find? kept
    have notices : p''.tracker.notices = p'.tracker.notices :=
      congrArg MemoryNotifications.mk h'.entries
    obtain ⟨_, ⟨_, _⟩, _⟩ := p''
    obtain rfl := h'.queue
    obtain rfl := tasks
    obtain rfl := notices
    rfl

variable [Clock V]

end

/-- A registry that gives one answer after the other, whatever run it is asked for. -/
def oracle : RunRegistry (Timed (List (Option Bool))) where
  isActive _ t :=
    ((t.inner.headD none).elim (.error (.retryable (.ofText "unreachable"))) .ok,
      { t with inner := t.inner.tail })

/-- The first question goes unanswered, and the answer to the second is good for the third task. -/
example :
    let task (n : Int) : TaskInfo :=
      { TaskInfo.new .epoch ⟨n⟩ "copy" 1 (some "run") with state := .processing }
    let tasks := ((MemoryTasks.empty.put (task 1)).put (task 2)).put (task 3)
    let swept := sweep oracle ⟨MemoryQueue.empty, ⟨tasks, MemoryNotifications.empty⟩,
      .start .epoch [none, some false, some true]⟩
    swept.1 = .ok 2 ∧ swept.2.services.inner = [some true] ∧
      swept.2.tracker.tasks.tasks.map (·.state) = [.processing, .failed, .failed] := by
  decide +kernel

end Monitor

end Conveyor
