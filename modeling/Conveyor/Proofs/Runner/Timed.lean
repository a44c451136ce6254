import Conveyor.Proofs.Runner.Emptying
import Conveyor.Proofs.Runner.Shifts

/-!
# Runs for a time

A run for a time is nothing but turns, in the order in which they are due, for as long as one is due
before the deadline.  There is a bound on their number, since a turn that acknowledges nothing is
followed by a sleep.  If no stage sleeps, the turns are polls, so that whatever is known of
histories of operations holds of such a run too.  A monitor that runs for a time is nothing but
sweeps.

* `Stage.Wakeful` and **`Worker.turn_eq_poll`** — a turn of a worker whose stage never sleeps is a
  poll; **`Runner.workFor_eq`** is a run of such workers.
* `Runner.Works` — turns without a bound on their number; **`Runner.works_of_turns`** says that they
  come to an end if turns take something off a measure, and that a bound above it makes no
  difference.
* `Stage.Punctual` — a stage whose sleeps go forward in time; **`Runner.works_workFor`** says that
  with such stages, and topologies that share no topic, a run for a time is work without a bound.
* **`Monitor.runFor_eq`** — the monitor sweeps, and then time has passed.
-/

namespace Conveyor

variable {V S : Type}

/-! ## Stages that never sleep -/

/-- A stage that never sleeps does among others what it does alone. -/
def Stage.Wakeful (stage : Stage (Timed S)) : Prop :=
  ∀ e t, t.company = .alone →
    stage.run e (t.among (.others []))
        = ((stage.run e t).1, (stage.run e t).2.among (.others [])) ∧
      (stage.run e t).2.company = .alone

section

variable {stage : Stage (Timed S)} {f : Envelope → Action S StepError Outcome}

/-- A stage that does not see the clock changes nothing about it. -/
theorem Stage.run_of_inner (inner : ∀ e, stage.process e = (f e).on Timed.innerPart) (e : Envelope)
    (t : Timed S) :
    stage.run e t = ((stage.run e t).1, { t with inner := (f e t.inner).2 }) ∧
      ∀ company, (stage.run e (t.among company)).1 = (stage.run e t).1 := by
  simp only [Stage.run, inner, Action.on_apply, Timed.innerPart, Timed.among]
  cases f e t.inner with
  | mk answer s => cases answer <;> exact ⟨rfl, fun _ => rfl⟩

/-- It never sleeps. -/
theorem Stage.wakeful_of_inner (inner : ∀ e, stage.process e = (f e).on Timed.innerPart) :
    stage.Wakeful := by
  intro e t alone
  obtain ⟨run, same⟩ := run_of_inner inner e t
  obtain ⟨ran, -⟩ := run_of_inner inner e (t.among (.others []))
  rw [ran, run, same]
  exact ⟨rfl, alone⟩

end

namespace Worker

variable {Q T N : Type} {w : Worker (Timed S)} {p : Plant Q T N (Timed S)}

/-- The stage of an errand comes to its end at once. -/
theorem runOn_eq (wakeful : w.stage.Wakeful) (d : Delivery) (rest : List Delivery) (acked : Nat)
    {began : Timed S} (alone : began.company = .alone) :
    w.runOn ⟨d, rest, acked, began, []⟩ p
      = (.ended (w.stage.run d.envelope began).1,
          { p with services := (w.stage.run d.envelope began).2 }) := by
  obtain ⟨run, still⟩ := wakeful d.envelope began alone
  rw [runOn]
  simp only
  rw [run]
  rcases ran : w.stage.run d.envelope began with ⟨outcome, ⟨inner, now, elapsed, company⟩⟩
  rw [ran] at still
  cases still
  rfl

variable [MessageQueue Q] [TaskStore T] [NotificationSink N]

section

variable [Clock V] (w : Worker V)

/-- To record an outcome leaves the services alone. -/
theorem services_conclude (d : Delivery) (outcome : Option Outcome) (p : Plant Q T N V) :
    (w.conclude d outcome p).2.services = p.services := by
  have queue : ∀ {α : Type} (call : Action Q StoreError α),
      (Plant.onQueue call).Keeps fun q : Plant Q T N V => q.services = p.services :=
    fun _ _ same => same
  have report : ∀ {α : Type} (call : Timestamp → Action (Tracker T N) StoreError α),
      (Plant.report call).Keeps fun q : Plant Q T N V => q.services = p.services :=
    fun _ _ same => same
  have record : ∀ (id : TaskId) (outcome : Outcome),
      (w.record id outcome).Keeps fun q : Plant Q T N V => q.services = p.services := by
    intro id outcome
    cases outcome with
    | forward e =>
      rw [Worker.record]
      split
      · exact (queue _).bind fun _ => Action.keeps_pure ()
      · exact (report _).bind fun _ => Action.keeps_pure ()
    | error e => exact (report _).bind fun _ => Action.keeps_pure ()
    | drop id resource => exact (report _).bind fun _ => Action.keeps_pure ()
  have settle : (w.settle d outcome).Keeps fun q : Plant Q T N V => q.services = p.services := by
    cases outcome with
    | none => exact (Action.keeps_pure ()).bind fun _ => queue _
    | some outcome => exact (record _ _).bind fun _ => queue _
  have settled := settle p rfl
  rw [conclude]
  split
  · rename_i run
    rwa [run] at settled
  · rename_i run
    rw [run] at settled
    exact settled

end

/-- **A batch** is dealt with in one turn. -/
theorem serveOn_eq (wakeful : w.stage.Wakeful) (batch : List Delivery) (acked : Nat)
    (alone : p.services.company = .alone) :
    w.serveOn batch acked p = (.served (acked + (w.serve batch p).1), (w.serve batch p).2) ∧
      (w.serve batch p).2.services.company = .alone := by
  induction batch generalizing acked p with
  | nil => exact ⟨rfl, alone⟩
  | cons d rest ih =>
    have looked : (isVoid d p).2.services.company = .alone := alone
    rw [serveOn, serve, handle, examine, Action.bind_apply]
    rcases look : isVoid d p with ⟨void, q⟩
    rw [look] at looked
    -- what is recorded of the message is recorded alike, and then the rest is dealt with
    have concluded : ∀ (outcome : Option Outcome) (q : Plant Q T N (Timed S)),
        q.services.company = .alone →
        w.serveOn rest (acked + (w.conclude d outcome q).1) (w.conclude d outcome q).2
            = (.served (acked + ((w.conclude d outcome q).1
                + (w.serve rest (w.conclude d outcome q).2).1)),
              (w.serve rest (w.conclude d outcome q).2).2) ∧
          (w.serve rest (w.conclude d outcome q).2).2.services.company = .alone := by
      intro outcome q alone
      have alone : (w.conclude d outcome q).2.services.company = .alone := by
        rw [services_conclude]
        exact alone
      have there := ih (acked + (w.conclude d outcome q).1) alone
      rwa [Nat.add_assoc] at there
    cases void with
    | error err =>
      have alone : (giveBack d q).services.company = .alone := looked
      simpa using ih acked alone
    | ok void =>
      cases void with
      | true => exact concluded none q looked
      | false =>
        obtain ⟨-, still⟩ := wakeful d.envelope q.services looked
        simp only [runOn_eq wakeful d rest acked looked]
        exact concluded (some _) { q with services := (w.stage.run d.envelope q.services).2 } still

/-- **A turn** of a worker with nothing at hand is a poll. -/
theorem turn_eq_poll (wakeful : w.stage.Wakeful) (alone : p.services.company = .alone) :
    ∃ acked, w.turn none p = (.served acked, (w.poll p).2) ∧
      (∀ n, (w.poll p).1 = .ok n → n = acked) ∧ (w.poll p).2.services.company = .alone := by
  have untouched : (w.claim p).2.services.company = .alone := alone
  rw [turn, poll, Action.bind_apply]
  rcases claim : w.claim p with ⟨answer, q⟩
  rw [claim] at untouched
  cases answer with
  | error err =>
    refine ⟨0, rfl, fun n answer => ?_, untouched⟩
    cases answer
  | ok batch =>
    obtain ⟨served, still⟩ := serveOn_eq wakeful batch 0 untouched
    rw [Nat.zero_add] at served
    exact ⟨_, served, fun n answer => (Except.ok.inj answer).symm, still⟩

end Worker

/-- What workers do that never sleep: they poll, and time passes. -/
def Operation.WorkOf (r : Runner (Timed S)) : Operation (Timed S) → Prop
  | .poll w => w ∈ r.workers
  | .elapse change => ∃ moment, change = Timed.setClock moment
  | _ => False

theorem Plant.after_append [Clock V] (p : MemoryPlant V) (later earlier : List (Operation V)) :
    p.after (later ++ earlier) = (p.after earlier).after later := List.foldr_append ..

namespace Runner

variable {r : Runner (Timed S)}

theorem workShifts_eq (wakeful : ∀ w ∈ r.workers, w.stage.Wakeful) (deadline : Millis)
    (limit : Nat) {shifts : List (Shift S)} {p : MemoryPlant (Timed S)}
    (idle : ∀ s ∈ shifts, s.worker ∈ r.workers ∧ s.errand = none)
    (alone : p.services.company = .alone) :
    ∃ ops, (∀ op ∈ ops, op.WorkOf r) ∧ r.workShifts deadline limit shifts p = p.after ops := by
  induction limit generalizing shifts p with
  | zero => exact ⟨[], fun _ mem => absurd mem List.not_mem_nil, rfl⟩
  | succ limit ih =>
    rw [workShifts]
    cases first : firstDue? shifts with
    | none => exact ⟨[], fun _ mem => absurd mem List.not_mem_nil, rfl⟩
    | some pair =>
      obtain ⟨⟨due, w, errand⟩, others⟩ := pair
      have order := firstDue?_perm first
      obtain ⟨worker, rfl⟩ := idle _ (order.symm.subset List.mem_cons_self)
      simp only
      split
      · exact ⟨[], fun _ mem => absurd mem List.not_mem_nil, rfl⟩
      · obtain ⟨acked, turn, -, still⟩ := Worker.turn_eq_poll (wakeful w worker)
          (p := { p with services := p.services.setClock due }) alone
        rw [turn]
        simp only
        have idle : ∀ s ∈ reschedule due
            (Shift.next ⟨due, w, none⟩ r.pollInterval (.served acked)) others,
            s.worker ∈ r.workers ∧ s.errand = none := by
          intro s mem
          rcases List.mem_cons.1 ((reschedule_perm ..).subset mem) with rfl | among
          · cases acked <;> exact ⟨worker, rfl⟩
          · exact idle s (order.symm.subset (List.mem_cons_of_mem _ among))
        obtain ⟨ops, work, rest⟩ := ih idle still
        refine ⟨ops ++ [.poll w, .elapse (Timed.setClock due)], fun op mem => ?_, ?_⟩
        · rcases List.mem_append.1 mem with mem | mem
          · exact work op mem
          · simp only [List.mem_cons, List.not_mem_nil, or_false] at mem
            rcases mem with rfl | rfl
            · exact worker
            · exact ⟨due, rfl⟩
        · rw [rest, Plant.after_append]
          rfl

/-- **If no stage sleeps, workers at work for a time** do nothing but poll while time passes. -/
theorem workFor_eq (wakeful : ∀ w ∈ r.workers, w.stage.Wakeful) (duration : Millis)
    {p : MemoryPlant (Timed S)} (alone : p.services.company = .alone) :
    ∃ ops, (∀ op ∈ ops, op.WorkOf r) ∧ r.workFor duration p = p.after ops := by
  rw [workFor]
  have idle : ∀ s ∈ r.workers.map fun w => (⟨p.services.elapsed, w, none⟩ : Shift S),
      s.worker ∈ r.workers ∧ s.errand = none := by
    intro s mem
    obtain ⟨w, worker, rfl⟩ := List.mem_map.1 mem
    exact ⟨worker, rfl⟩
  obtain ⟨ops, work, run⟩ := workShifts_eq wakeful
    (p.services.elapsed + sleepTime duration) (r.turnsWithin (sleepTime duration) p) idle alone
  refine ⟨.elapse (Timed.setClock (p.services.elapsed + sleepTime duration)) :: ops,
    List.forall_mem_cons.2 ⟨⟨_, rfl⟩, work⟩, ?_⟩
  rw [run]
  rfl

end Runner

/-! ## Turns without a bound -/

section

variable {Q T N : Type} [MessageQueue Q] [TaskStore T] [NotificationSink N]
  {r : Runner (Timed S)} {deadline : Millis} {shifts : List (Shift S)}
  {p : Plant Q T N (Timed S)}

/-- Turns without a bound on their number, until none is due before the deadline. -/
inductive Runner.Works (r : Runner (Timed S)) (deadline : Millis) :
    List (Shift S) → Plant Q T N (Timed S) → Plant Q T N (Timed S) → Prop where
  | over {shifts : List (Shift S)} {p : Plant Q T N (Timed S)}
      (late : ∀ shift others, firstDue? shifts = some (shift, others) → deadline ≤ shift.due) :
      Works r deadline shifts p p
  | turn {shifts others : List (Shift S)} {shift : Shift S} {standing : Standing S}
      {p p' q : Plant Q T N (Timed S)} (first : firstDue? shifts = some (shift, others))
      (early : shift.due < deadline)
      (turn : shift.worker.turn shift.errand
        { p with services := p.services.setClock shift.due } = (standing, p'))
      (rest : Works r deadline
        (reschedule shift.due (shift.next r.pollInterval standing) others) p' q) :
      Works r deadline shifts p q

/-- **Turns come to an end** if each takes something off a measure.  A bound on their number that is
above the measure makes no difference then. -/
theorem Runner.works_of_turns {J : List (Shift S) → Plant Q T N (Timed S) → Prop}
    {μ : List (Shift S) → Plant Q T N (Timed S) → Nat}
    (turn : ∀ {shifts others shift standing p p'}, J shifts p →
      firstDue? shifts = some (shift, others) → shift.due < deadline →
      shift.worker.turn shift.errand { p with services := p.services.setClock shift.due }
        = (standing, p') →
      J (reschedule shift.due (shift.next r.pollInterval standing) others) p' ∧
        μ (reschedule shift.due (shift.next r.pollInterval standing) others) p' < μ shifts p)
    {limit : Nat} (enough : μ shifts p < limit) (h : J shifts p) :
    r.Works deadline shifts p (r.workShifts deadline limit shifts p) := by
  induction limit generalizing shifts p with
  | zero => exact absurd enough (Nat.not_lt_zero _)
  | succ limit ih =>
    rw [workShifts]
    cases first : firstDue? shifts with
    | none =>
      refine .over fun shift others found => ?_
      rw [first] at found
      cases found
    | some pair =>
      obtain ⟨shift, others⟩ := pair
      simp only
      split
      · rename_i late
        refine .over fun shift' others' found => ?_
        rw [first] at found
        cases found
        exact late
      · rename_i early
        have early : shift.due < deadline := Nat.lt_of_not_le early
        rcases taken : shift.worker.turn shift.errand
          { p with services := p.services.setClock shift.due } with ⟨standing, p'⟩
        obtain ⟨kept, less⟩ := turn h first early taken
        exact .turn first early taken (ih (by omega) kept)

/-! ## Sleeps that go forward -/

/-- A step that was under way at a moment has gone on: it sleeps until later, or is at its end. -/
def Timed.GoneOn (moment : Millis) (t : Timed S) : Prop :=
  match t.company with
  | .paused wake _ => moment < wake
  | _ => moment ≤ t.elapsed

/-- A stage whose sleeps go forward in time, however often it is waked up. -/
structure Stage.Punctual (stage : Stage (Timed S)) : Prop where
  begins : ∀ (e : Envelope) (t : Timed S), (stage.run e (t.among (.others []))).2.GoneOn t.elapsed
  wakes : ∀ (e : Envelope) (t : Timed S) (awakenings : List S) (s : S) (wake : Millis) (left : S),
    (stage.run e (t.among (.others awakenings))).2.company = .paused wake left →
      (stage.run e (t.among (.others (awakenings ++ [s])))).2.GoneOn wake

theorem Stage.punctual_of_inner {stage : Stage (Timed S)}
    {f : Envelope → Action S StepError Outcome}
    (inner : ∀ e, stage.process e = (f e).on Timed.innerPart) : stage.Punctual where
  begins e t := by
    rw [(run_of_inner inner e (t.among (.others []))).1]
    exact Nat.le_refl _
  wakes e t awakenings s wake left paused := by
    rw [(run_of_inner inner e (t.among (.others awakenings))).1] at paused
    cases paused

/-- A stage that sleeps before it hands a record on as it is. -/
def napping (delay : Millis) : Stage (Timed S) :=
  ⟨"nap", fun e t => (.ok (.forward e), Clock.sleep delay t)⟩

theorem punctual_napping (delay : Millis) : (napping delay : Stage (Timed S)).Punctual := by
  have run : ∀ e (t : Timed S), ((napping delay).run e t).2 = t.sleep delay := fun _ _ => rfl
  by_cases none : sleepTime delay = 0
  · have still : ∀ t : Timed S, t.sleep delay = t := fun t => if_pos none
    refine ⟨fun e t => ?_, fun e t awakenings s wake left paused => ?_⟩
    · rw [run, still]
      exact Nat.le_refl _
    · rw [run, still] at paused
      cases paused
  · have slept : ∀ t : Timed S, t.sleep delay = _ := fun t => if_neg none
    refine ⟨fun e t => ?_, fun e t awakenings s wake left paused => ?_⟩
    · rw [run, slept]
      exact Nat.lt_add_of_pos_right (Nat.pos_of_ne_zero none)
    · cases awakenings with
      | nil =>
        rw [run, slept] at paused ⊢
        cases paused
        exact Nat.le_refl _
      | cons first later =>
        rw [run, slept] at paused
        cases paused

namespace Worker

/-- The stage of an errand sleeps until a moment. -/
def SleepsUntil (w : Worker (Timed S)) (errand : Errand S) (wake : Millis) : Prop :=
  ∃ left, (w.stage.run errand.delivery.envelope
    (errand.began.among (.others errand.awakenings))).2.company = .paused wake left

variable {w : Worker (Timed S)} {errand errand' : Errand S} {moment wake : Millis}
  {q : Plant Q T N (Timed S)}

omit [MessageQueue Q] [TaskStore T] [NotificationSink N] in
/-- A stage that runs on sleeps until later, or comes to its end no earlier. -/
theorem runOn_of_goneOn (errand : Errand S) (p : Plant Q T N (Timed S))
    (on : (w.stage.run errand.delivery.envelope
      (errand.began.among (.others errand.awakenings))).2.GoneOn moment) :
    (∃ wake v, w.runOn errand p = (.asleep wake, { p with services := v }) ∧ moment < wake ∧
        w.SleepsUntil errand wake) ∨
      ∃ outcome v, w.runOn errand p = (.ended outcome, { p with services := v }) ∧
        moment ≤ v.elapsed := by
  rw [runOn]
  rcases run : w.stage.run errand.delivery.envelope
    (errand.began.among (.others errand.awakenings)) with ⟨outcome, after⟩
  rw [run, Timed.GoneOn] at on
  simp only
  cases company : after.company with
  | paused wake left =>
    rw [company] at on
    exact .inl ⟨wake, _, rfl, on, left, by rw [run]; exact company⟩
  | alone =>
    rw [company] at on
    exact .inr ⟨outcome, _, rfl, on⟩
  | others awakenings =>
    rw [company] at on
    exact .inr ⟨outcome, _, rfl, on⟩

/-- A worker that begins with a batch at a moment sleeps until later. -/
theorem serveOn_wake (punctual : w.stage.Punctual) (batch : List Delivery) (acked : Nat)
    (start : moment ≤ p.services.elapsed)
    (run : w.serveOn batch acked p = (.asleep wake errand, q)) :
    moment < wake ∧ w.SleepsUntil errand wake := by
  induction batch generalizing acked p with
  | nil => cases run
  | cons d rest ih =>
    have looked : moment ≤ (isVoid d p).2.services.elapsed := start
    rw [serveOn] at run
    rcases look : isVoid d p with ⟨void, p'⟩
    rw [look] at run looked
    have concluded : ∀ (outcome : Option Outcome) (p' : Plant Q T N (Timed S)),
        moment ≤ p'.services.elapsed →
        w.serveOn rest (acked + (w.conclude d outcome p').1) (w.conclude d outcome p').2
          = (.asleep wake errand, q) → moment < wake ∧ w.SleepsUntil errand wake :=
      fun outcome p' start => ih _ (by rwa [services_conclude])
    cases void with
    | error err =>
      have start : moment ≤ (giveBack d p').services.elapsed := looked
      exact ih acked start run
    | ok void =>
      cases void with
      | true => exact concluded none p' looked run
      | false =>
        simp only at run
        rcases runOn_of_goneOn ⟨d, rest, acked, p'.services, []⟩ p'
            (punctual.begins d.envelope p'.services) with
          ⟨wake', v, asleep, later, sleeps⟩ | ⟨outcome, v, ended, later⟩
        · rw [asleep] at run
          cases run
          exact ⟨Nat.lt_of_le_of_lt looked later, sleeps⟩
        · rw [ended] at run
          exact concluded (some outcome) { p' with services := v }
            (Nat.le_trans looked later) run

/-- A worker whose stage has slept until a moment sleeps until later. -/
theorem wakeUp_wake (punctual : w.stage.Punctual) (slept : w.SleepsUntil errand moment)
    (run : w.wakeUp errand p = (.asleep wake errand', q)) :
    moment < wake ∧ w.SleepsUntil errand' wake := by
  obtain ⟨left, paused⟩ := slept
  rw [wakeUp] at run
  simp only at run
  rcases runOn_of_goneOn
      { errand with awakenings := errand.awakenings ++ [p.services.inner] } p
      (punctual.wakes _ _ _ p.services.inner _ _ paused) with
    ⟨wake', v, asleep, later, sleeps⟩ | ⟨outcome, v, ended, later⟩
  · rw [asleep] at run
    obtain ⟨rfl, rfl⟩ := Standing.asleep.inj (Prod.mk.inj run).1
    exact ⟨later, sleeps⟩
  · rw [ended] at run
    exact serveOn_wake punctual errand.rest _ (by rwa [services_conclude]) run

/-- **A turn at a moment** is followed by a sleep until later, if the stage sleeps. -/
theorem turn_wake (punctual : w.stage.Punctual) {errand : Option (Errand S)}
    (slept : ∀ e ∈ errand, w.SleepsUntil e p.services.elapsed)
    (run : w.turn errand p = (.asleep wake errand', q)) :
    p.services.elapsed < wake ∧ w.SleepsUntil errand' wake := by
  cases errand with
  | some errand => exact wakeUp_wake punctual (slept errand rfl) run
  | none =>
    have untouched : p.services.elapsed ≤ (w.claim p).2.services.elapsed := Nat.le_refl _
    rw [turn] at run
    rcases claim : w.claim p with ⟨answer, p'⟩
    rw [claim] at run untouched
    cases answer with
    | error err => cases run
    | ok batch => exact serveOn_wake punctual batch 0 untouched run

end Worker

end

/-! ## The bound on turns -/

/-- Whoever handles a message takes its stage off the way of the messages. -/
theorem Worker.Handles.weight_lt [Clock V] {w : Worker V} {topics : List String}
    {ahead : String → Nat} (descends : w.Descends topics ahead) {d : Delivery}
    {p p' : MemoryPlant V} (held : Holds p.queue d) (topic : d.topic = w.topic)
    (h : w.Handles d p p') : 1 + p'.queue.weight ahead ≤ p.queue.weight ahead := by
  have treats : w.Treats ∅ d p.queue 1 p'.queue := by
    cases h with
    | void => exact .off (Set.notMem_empty _)
    | onward live run next => exact .onward _ (Set.notMem_empty _) next
    | ended => exact .off (Set.notMem_empty _)
  exact treats.weight_le held (topic ▸ descends.less) (topic ▸ descends.positive)

namespace Runner

/-- What the messages of a queue have before them, and the shifts until the deadline. -/
def remaining (ahead : String → Nat) (deadline : Millis) (shifts : List (Shift S))
    (p : MemoryPlant (Timed S)) : Nat :=
  p.queue.weight ahead + (shifts.map fun s => deadline - s.due).sum

/-- Shifts whose workers have different messages at hand, and whose stages sleep until they are
due. -/
structure Timely (r : Runner (Timed S)) (shifts : List (Shift S)) (p : MemoryPlant (Timed S)) :
    Prop where
  manned : Manned r shifts p
  slept : ∀ s ∈ shifts, ∀ errand ∈ s.errand, s.worker.SleepsUntil errand s.due

variable {r : Runner (Timed S)} {topics : List String} {ahead : String → Nat} {deadline : Millis}
  {shifts shifts' others : List (Shift S)} {shift : Shift S} {standing : Standing S}
  {p q : MemoryPlant (Timed S)}

theorem remaining_perm (order : shifts.Perm shifts') :
    remaining ahead deadline shifts p = remaining ahead deadline shifts' p :=
  congrArg (p.queue.weight ahead + ·) (order.map _).sum_eq

theorem Timely.perm (h : Timely r shifts p) (order : shifts'.Perm shifts) : Timely r shifts' p :=
  ⟨h.manned.perm order, fun s mem => h.slept s (order.subset mem)⟩

/-- **A turn among shifts** takes something off what remains: a message is acknowledged, or the
worker sleeps. -/
theorem Timely.turn (h : Timely r (shift :: others) p)
    (descends : ∀ w ∈ r.workers, w.Descends topics ahead)
    (punctual : ∀ w ∈ r.workers, w.stage.Punctual) (waits : 0 < sleepTime r.pollInterval)
    (early : shift.due < deadline) (moment : p.services.elapsed = shift.due)
    (turn : shift.worker.turn shift.errand p = (standing, q)) :
    Timely r (shift.next r.pollInterval standing :: others) q ∧
      remaining ahead deadline (shift.next r.pollInterval standing :: others) q
        < remaining ahead deadline (shift :: others) p := by
  obtain ⟨slept, others_slept⟩ := List.forall_mem_cons.1 h.slept
  have keeps : r.Keeps fun n q => n + q.queue.weight ahead ≤ p.queue.weight ahead :=
    { services := fun _ _ _ h => h
      worker := fun w mem =>
        { claim := fun n q h => by
            show n + (q.queue.claim w.topic w.partition w.batch).2.weight ahead ≤ _
            rwa [MemoryQueue.weight_claim]
          handle := fun n d q q' h held topic _ handles => by
            have less := handles.weight_lt (descends w mem) held topic
            omega } }
  obtain ⟨k, weight, tended, manned⟩ :=
    h.manned.turn keeps (n := 0) (by rw [Nat.zero_add]) r.pollInterval turn
  simp only [remaining, List.map_cons, List.sum_cons]
  cases standing with
  | served acked =>
    refine ⟨⟨manned, List.forall_mem_cons.2 ⟨fun errand there => ?_, others_slept⟩⟩, ?_⟩
    · have idle : (shift.next r.pollInterval (.served acked)).errand = none := by
        cases acked <;> rfl
      rw [idle] at there
      cases there
    · cases acked with
      | zero =>
        have less := Nat.sub_lt_sub_left early (Nat.lt_add_of_pos_right waits)
        exact Nat.add_lt_add_of_le_of_lt (by omega) (Nat.add_lt_add_right less _)
      | succ acked =>
        have some := Shift.dealt_of_served tended
        exact Nat.add_lt_add_of_lt_of_le (by omega) (Nat.le_refl _)
  | asleep wake errand =>
    have punctual := punctual shift.worker (h.manned.worker shift List.mem_cons_self)
    rw [← moment] at slept early ⊢
    obtain ⟨later, sleeps⟩ := Worker.turn_wake punctual slept turn
    refine ⟨⟨manned, List.forall_mem_cons.2 ⟨?_, others_slept⟩⟩, ?_⟩
    · rintro errand' there
      obtain rfl := Option.some.inj there
      exact sleeps
    · have less := Nat.sub_lt_sub_left early later
      exact Nat.add_lt_add_of_le_of_lt (by omega) (Nat.add_lt_add_right less _)

/-- **A run for a time is work without a bound**, if topologies share no topic and the stages of all
workers are punctual. -/
theorem works_workFor {topologies : List (Topology (Timed S))}
    (distinct : (topologies.flatMap Topology.topics).Nodup) (interval : Millis) (batch : Nat)
    (punctual : ∀ w ∈ (Runner.new topologies interval batch).workers, w.stage.Punctual)
    (duration : Millis) (p : MemoryPlant (Timed S)) :
    ∃ q, (Runner.new topologies interval batch).Works (p.services.elapsed + sleepTime duration)
        ((Runner.new topologies interval batch).workers.map
          fun w => ⟨p.services.elapsed, w, none⟩) p q ∧
      (Runner.new topologies interval batch).workFor duration p
        = { q with services := q.services.setClock (p.services.elapsed + sleepTime duration) } := by
  set r := Runner.new topologies interval batch
  have waits : 0 < sleepTime r.pollInterval := by
    have interval : 0 < r.pollInterval := Nat.lt_of_lt_of_le Nat.one_pos (Nat.le_max_left ..)
    exact Nat.lt_min.2 ⟨interval, by decide⟩
  have start : Timely r (r.workers.map fun w => ⟨p.services.elapsed, w, none⟩) p := by
    refine ⟨manned_start r _ p, fun s mem errand there => ?_⟩
    obtain ⟨w, -, rfl⟩ := List.mem_map.1 mem
    cases there
  refine ⟨_, works_of_turns (J := Timely r)
    (μ := remaining (fun topic => (chainFrom topologies topic).length)
      (p.services.elapsed + sleepTime duration)) ?_ ?_ start, rfl⟩
  · intro shifts others shift standing p p' timely first early turn
    have order := firstDue?_perm first
    obtain ⟨manned, slept⟩ := timely.perm order.symm
    have now : Timely r (shift :: others)
        { p with services := p.services.setClock shift.due } := ⟨manned.services _, slept⟩
    obtain ⟨next, less⟩ := now.turn (fun w mem => descends_new distinct mem) punctual waits early
      rfl turn
    have later := reschedule_perm shift.due (shift.next r.pollInterval standing) others
    refine ⟨next.perm later, ?_⟩
    rw [remaining_perm later, remaining_perm order]
    exact less
  · have weight : p.queue.weight _ ≤ r.horizon p := weight_le_horizon topologies interval batch p
    have time : ((r.workers.map fun w => (⟨p.services.elapsed, w, none⟩ : Shift S)).map
        fun s => p.services.elapsed + sleepTime duration - s.due).sum
        = r.workers.length * sleepTime duration := by
      rw [List.map_map]
      simp [Function.comp_def]
    rw [remaining, time, turnsWithin]
    have more := Nat.mul_le_mul_left r.workers.length (Nat.le_add_right (sleepTime duration) 1)
    omega

end Runner

/-- Two workers that are stopped, or not, while their stages sleep over a record each. -/
example :
    let topology : Topology (Timed Unit) :=
      { relayTopology with
        partitions := 2
        entries := [⟨napping 7, ⟨none, Dict.empty⟩⟩]
        entries_ne_nil := List.cons_ne_nil _ _
        partitions_pos := by decide
        names_nodup := List.nodup_singleton _ }
    let record := (SourceRecord.ofResource "a").envelope (doubleTask 7)
    let queue := ((MemoryQueue.empty.publish "copy.nap" 0 record).2.publish "copy.nap" 1 record).2
    let p : MemoryPlant (Timed Unit) := ⟨queue, .empty, Timed.start .epoch ()⟩
    let r := Runner.new [topology] 1 1
    (r.runFor 7 p).queue.messages.map (·.inFlight) = [true, true] ∧
      (r.runFor 8 p).queue.messages = [] := by
  decide +kernel

/-! ## The monitor -/

namespace Monitor

variable [Clock V]

theorem sweeps_eq (registry : RunRegistry V) (n : Nat) (p : MemoryPlant V) :
    sweeps registry n p = p.after (List.replicate n (.sweep registry)) := by
  induction n generalizing p with
  | zero => rfl
  | succ n ih =>
    rw [sweeps, ih, List.replicate_succ', Plant.after_append]
    rfl

/-- **A monitor that runs for a time** sweeps so many times, and then the time has passed. -/
theorem runFor_eq (m : Monitor) (registry : RunRegistry V) (duration : Millis)
    (p : MemoryPlant V) :
    m.runFor registry duration p
      = p.after (.elapse (Clock.sleep duration)
          :: List.replicate (m.sweepsWithin (sleepTime duration)) (.sweep registry)) := by
  rw [runFor, sweeps_eq]
  rfl

/-- It keeps what the services and the failing of a task keep. -/
theorem keeps_runFor {I : MemoryPlant V → Prop} (m : Monitor) (registry : RunRegistry V)
    (duration : Millis) (services : ∀ p v, I p → I { p with services := v })
    (fail : ∀ p now id reason, I p → I (p.told (.failTask now id reason)))
    {p : MemoryPlant V} (h : I p) : I (m.runFor registry duration p) := by
  have swept : ∀ n p, I p → I (sweeps registry n p) := by
    intro n
    induction n with
    | zero => exact fun _ h => h
    | succ n ih => exact fun p h => ih _ (sweep_induction registry services fail h)
  exact services _ _ (swept _ p h)

end Monitor

end Conveyor
