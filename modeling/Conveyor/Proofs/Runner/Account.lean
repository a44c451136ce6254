import Conveyor.Proofs.Runner.Handling
import Conveyor.Proofs.Tracker.Completion
import Mathlib.Logic.Relation

/-!
# The account of a task

Two things are kept of a task: its messages that are out, and its record.  Whatever happens to a
plant is, for one task, a sequence of entries in this account.  The handling of a message enters
that one message less is out, and, unless the task was dropped, that one record more is counted; or
it enters nothing, because the record goes on.

* `Account` — messages and record; `Account.Entry` and `Account.Move` are the entries.
* **`Worker.entries_poll`** — a poll enters nothing else, whatever task and batch.
* `Balance` — how the two of a task agree of which `n` records were published.
* **`Account.Balanced.entry`**, **`Account.Balanced.move`** — entries keep the balance.
-/

namespace Conveyor

/-! ## Accounts -/

/-- What is kept of a task. -/
structure Account where
  /-- How many of its messages are out. -/
  out : Nat
  record : Option TaskInfo

def Plant.account {V : Type} (p : MemoryPlant V) (id : TaskId) : Account :=
  ⟨p.queue.out id, p.progress id⟩

namespace Account

/-- What the handling of a message enters in the account of its task. -/
inductive Entry : Account → Account → Prop where
  /-- The task was dropped, so the message goes. -/
  | void {t : TaskInfo} (out : Nat) (dropped : t.state = .dropped) :
      Entry ⟨out + 1, some t⟩ ⟨out, some t⟩
  /-- The record has come to an end. -/
  | count (out : Nat) (r : Option TaskInfo) (now : Timestamp) (counter : Counter) :
      Entry ⟨out + 1, r⟩ ⟨out, r.map ((Tracker.Change.count counter).revise now)⟩

/-- What else may be entered in an account; only if `may` says so, the task may be ended ahead of
time. -/
inductive Move (may : Prop) : Account → Account → Prop where
  | entry {a b : Account} (h : Entry a b) : Move may a b
  /-- A reason to fail is noted. -/
  | warn (out : Nat) (r : Option TaskInfo) (now : Timestamp) (reason : String) :
      Move may ⟨out, r⟩ ⟨out, r.map ((Tracker.Change.warn reason).revise now)⟩
  /-- The task is dropped or failed. -/
  | abort {target : TaskState} (out : Nat) (r : Option TaskInfo) (now : Timestamp)
      (description : String) (ends : target = .dropped ∨ target = .failed) (allowed : may) :
      Move may ⟨out, r⟩
        ⟨out, r.map ((Tracker.Change.move TaskState.active target description).revise now)⟩

/-- The account with a change made of the record. -/
def revised (a : Account) (f : TaskInfo → TaskInfo) : Account := ⟨a.out, a.record.map f⟩

end Account

namespace Plant

variable {V : Type} {p : MemoryPlant V} {c : Tracker.Call}

/-- A call of the tracker that is no registration enters its change in the account of its task. -/
theorem account_told {change : Tracker.Change} (h : c.change? = some change) (id : TaskId) :
    (p.told c).account id
      = if c.task = id then (p.account id).revised (change.revise c.now) else p.account id := by
  rw [account, progress_told, Tracker.Call.after, h]
  split
  · rfl
  · rfl

theorem account_told_self {change : Tracker.Change} (id : TaskId) (h : c.change? = some change)
    (own : c.task = id) : (p.told c).account id = (p.account id).revised (change.revise c.now) := by
  rw [account_told h, if_pos own]

theorem account_told_of_ne {id : TaskId} (apart : c.task ≠ id) :
    (p.told c).account id = p.account id := by
  rw [account, progress_told, if_neg apart]
  rfl

end Plant

namespace Worker

variable {V : Type} [Clock V] {w : Worker V} {d : Delivery} {p p' : MemoryPlant V}

/-- **The handling of a message** is an entry in the account of its task, or none, and no other
account changes. -/
theorem Handles.account (h : Handles w d p p') (keeps : w.stage.KeepsTask)
    (held : Holds p.queue d) (id : TaskId) :
    p'.account id = p.account id ∨ Account.Entry (p.account id) (p'.account id) := by
  obtain ⟨m, mem, -, rfl⟩ := held
  have kept : (w.stage.run m.envelope p.services).1.task = m.envelope.taskId :=
    keeps.run m.envelope p.services
  have acked := MemoryQueue.out_ack id mem
  cases h with
  | void known dropped =>
    rename_i t
    by_cases own : m.envelope.taskId = id
    · have known : p.progress id = some t := by
        rw [← own]
        exact known
      rw [if_pos own] at acked
      have before : p.account id = ⟨(p.queue.ack m.id).out id + 1, some t⟩ :=
        congrArg₂ Account.mk acked.symm known
      have after : ({ p with queue := p.queue.ack m.delivery.id } : MemoryPlant V).account id
          = ⟨(p.queue.ack m.id).out id, some t⟩ := congrArg (Account.mk _) known
      right
      rw [before, after]
      exact .void _ dropped
    · left
      rw [if_neg own, Nat.add_zero] at acked
      exact congrArg (Account.mk · (p.progress id)) acked
  | onward live run next =>
    rename_i topic e services
    replace run : w.stage.run m.envelope p.services = (.forward e, services) := run
    rw [run] at kept
    have task : e.taskId = m.envelope.taskId := kept
    -- one message of the task more is out, and one less
    have published := MemoryQueue.out_publish id topic (w.topology.partitionFor e) e p.queue
    have after := MemoryQueue.out_ack id
      (MemoryQueue.mem_publish topic (w.topology.partitionFor e) e mem)
    rw [task] at published
    left
    refine congrArg (Account.mk · (p.progress id)) ?_
    show ((p.queue.publish topic (w.topology.partitionFor e) e).2.ack m.id).out id = p.queue.out id
    omega
  | ended live run leaves =>
    rename_i outcome services
    replace run : w.stage.run m.envelope p.services = (outcome, services) := run
    rw [run] at kept
    have task := task_ending (Clock.now services) (show outcome.task = m.envelope.taskId from kept)
    have told := Plant.account_told (p := { p with queue := p.queue.ack m.id })
      (change?_ending (Clock.now services) m.envelope.taskId outcome) id
    rw [task, now_ending] at told
    by_cases own : m.envelope.taskId = id
    · rw [if_pos own] at acked told
      have before : p.account id = ⟨(p.queue.ack m.id).out id + 1, p.progress id⟩ :=
        congrArg (Account.mk · (p.progress id)) acked.symm
      have entry := Account.Entry.count ((p.queue.ack m.id).out id) (p.progress id)
        (Clock.now services) outcome.counter
      right
      rw [before]
      exact cast (congrArg (Account.Entry _) told.symm) entry
    · rw [if_neg own, Nat.add_zero] at acked
      rw [if_neg own] at told
      left
      exact told.trans (congrArg (Account.mk · (p.progress id)) acked)

/-- A worker makes entries in the account of a task, and changes nothing else about it. -/
theorem keeps_entries (own : w.stage.KeepsTask) (a : Account) (id : TaskId) :
    w.Keeps fun _ q => Relation.ReflTransGen Account.Entry a (q.account id) where
  claim _ q so_far := by
    have claimed : (w.claimed q).account id = q.account id :=
      congrArg (Account.mk · (q.progress id)) (MemoryQueue.out_claim ..)
    rwa [claimed]
  handle _ d q q' so_far held _ _ handles := by
    rcases handles.account own held id with same | entry
    · rwa [same]
    · exact so_far.tail entry

/-- **A poll** is a sequence of entries in the account of every task. -/
theorem entries_poll (w : Worker V) (keeps : w.stage.KeepsTask) (p : MemoryPlant V)
    (id : TaskId) :
    Relation.ReflTransGen Account.Entry (p.account id) ((w.poll p).2.account id) :=
  (keeps_entries keeps (p.account id) id).poll (n := 0) .refl

end Worker

/-! ## Balance -/

/-- A task that does not wait any more is in progress or done. -/
theorem TaskInfo.processing_or_done (t : TaskInfo) (begun : t.state ≠ .pending) :
    t.state = .processing ∨ t.state.isTerminal = true := by
  cases state : t.state with
  | pending => exact absurd state begun
  | processing => exact .inl rfl
  | _ => exact .inr rfl

/-- How a task that is known stands of which `n` records were published: in progress, all of them
are out or counted, and some are out; if it was completed, all are counted.  It may also have ended
ahead of time, if `ahead` says so. -/
structure Balance (n : Nat) (ahead : Prop) (out : Nat) (t : TaskInfo) : Prop where
  begun : t.state ≠ .pending
  working : t.state = .processing → out + t.finished = n ∧ t.expected = n ∧ 1 ≤ out
  ended : t.state.isTerminal = true →
    out = 0 ∧ t.finished = n ∨ ahead ∧ t.state ≠ .processed ∧ out + t.finished ≤ n

namespace Balance

open Tracker

variable {n out : Nat} {ahead : Prop} {t : TaskInfo} {now : Timestamp}

theorem cases (h : Balance n ahead out t) :
    t.state = .processing ∨ t.state.isTerminal = true := t.processing_or_done h.begun

theorem le (h : Balance n ahead out t) : out + t.finished ≤ n := by
  rcases h.cases with processing | done
  · exact Int.le_of_eq (h.working processing).1
  · rcases h.ended done with ⟨none, all⟩ | ⟨-, -, le⟩
    · omega
    · exact le

/-- A task that is done stays in balance if less is out, whatever is expected. -/
theorem of_done (h : Balance n ahead out t) (done : t.state.isTerminal = true) {out' : Nat}
    (less : out' ≤ out) (expected : Int) :
    Balance n ahead out' { t with expected := expected } where
  begun := h.begun
  working processing := by
    have : t.state = .processing := processing
    rw [this] at done
    cases done
  ended _ := by
    have same : ({ t with expected := expected } : TaskInfo).finished = t.finished := rfl
    rw [same]
    rcases h.ended done with ⟨none, all⟩ | ⟨may, apart, le⟩
    · left
      omega
    · right
      exact ⟨may, apart, by omega⟩

/-- A task that is done stays in balance, whatever change is made of it. -/
theorem revise_of_done {change : Change} (lawful : change.Lawful) (h : Balance n ahead out t)
    (done : t.state.isTerminal = true) {out' : Nat} (less : out' ≤ out) :
    Balance n ahead out' (change.revise now t) := by
  rw [Change.revise_of_terminal lawful done]
  exact h.of_done done less _

/-- **A task in progress that is settled** is complete if nothing is out, and else as it was. -/
theorem settled (processing : t.state = .processing) (expected : t.expected = n)
    (total : out + t.finished = n) : Balance n ahead out (t.settled now) := by
  have due_iff : t.isDue = true ↔ out = 0 := by
    rw [TaskInfo.isDue_iff, expected]
    constructor
    · rintro ⟨-, -, reached⟩
      omega
    · rintro rfl
      exact ⟨processing, by omega, by omega⟩
  by_cases last : out = 0
  · have ends : (t.completed now).state.isTerminal = true := TaskInfo.verdict_isTerminal t
    rw [TaskInfo.settled, if_pos (due_iff.2 last)]
    refine ⟨fun pending => ?_, fun processing => ?_, fun _ => .inl ⟨last, ?_⟩⟩
    · rw [pending] at ends
      cases ends
    · rw [processing] at ends
      cases ends
    · show t.finished = n
      omega
  · rw [TaskInfo.settled, if_neg (mt due_iff.1 last)]
    refine ⟨fun pending => ?_, fun _ => ⟨total, expected, by omega⟩, fun ends => ?_⟩
    · rw [processing] at pending
      cases pending
    · rw [processing] at ends
      cases ends

/-- A task in progress of which nothing was counted is in balance once the number of its messages
is expected. -/
theorem expect (processing : t.state = .processing) (fresh : t.finished = 0) :
    Balance n ahead n ((Change.expect n).revise now t) := by
  rw [Change.revise_of_checks rfl, Change.own_expect]
  refine settled processing rfl ?_
  show (n : Int) + t.finished = n
  omega

/-- **A record that is counted** is out no more. -/
theorem count (h : Balance n ahead (out + 1) t) (counter : Counter) :
    Balance n ahead out ((Change.count counter).revise now t) := by
  rcases h.cases with processing | done
  · obtain ⟨total, expected, -⟩ := h.working processing
    have active := TaskInfo.isActive_of_processing processing
    rw [Change.revise_of_checks rfl, Change.own_count, if_pos active]
    refine settled ?_ ?_ ?_
    · rw [TaskInfo.state_bump, processing]
    · rw [TaskInfo.expected_bump, expected]
    · rw [TaskInfo.finished_bump]
      omega
  · have lawful : (Change.count counter).Lawful := trivial
    exact h.revise_of_done lawful done (Nat.le_succ out)

/-- To note a reason completes nothing, since something is out. -/
theorem warn (h : Balance n ahead out t) (reason : String) :
    Balance n ahead out ((Change.warn reason).revise now t) := by
  rcases h.cases with processing | done
  · obtain ⟨total, expected, -⟩ := h.working processing
    have active := TaskInfo.isActive_of_processing processing
    rw [Change.revise_of_checks rfl, Change.own_warn, if_pos active]
    exact settled processing expected total
  · have lawful : (Change.warn reason).Lawful := trivial
    exact h.revise_of_done lawful done (Nat.le_refl out)

theorem lawful_abort {target : TaskState} (ends : target = .dropped ∨ target = .failed)
    (description : String) : (Change.move TaskState.active target description).Lawful := by
  intro s mem
  have open_ := TaskState.mem_active_iff.1 mem
  rcases ends with rfl | rfl
  · exact .drop open_
  · exact .fail open_

theorem abort_of_processing (processing : t.state = .processing) (may : ahead)
    (le : out + t.finished ≤ n) {target : TaskState}
    (ends : target = .dropped ∨ target = .failed) (description : String) :
    Balance n ahead out
      ((Change.move TaskState.active target description).revise now t) := by
  have mem : t.state ∈ TaskState.active := by
    rw [processing]
    decide
  rw [Change.revise_move, if_pos mem]
  refine ⟨fun pending => ?_, fun working => ?_, fun _ => .inr ⟨may, fun processed => ?_, le⟩⟩
  · have : target = .pending := pending
    rcases ends with rfl | rfl <;> cases this
  · have : target = .processing := working
    rcases ends with rfl | rfl <;> cases this
  · have : target = .processed := processed
    rcases ends with rfl | rfl <;> cases this

/-- A task that is dropped or failed has ended ahead of time, unless it was done. -/
theorem abort (h : Balance n ahead out t) (may : ahead ∨ t.state.isTerminal = true)
    {target : TaskState} (ends : target = .dropped ∨ target = .failed) (description : String) :
    Balance n ahead out
      ((Change.move TaskState.active target description).revise now t) := by
  have lawful := lawful_abort ends description
  rcases h.cases with processing | done
  · have may : ahead := by
      refine may.resolve_right fun done => ?_
      rw [processing] at done
      cases done
    exact abort_of_processing processing may h.le ends description
  · exact h.revise_of_done lawful done (Nat.le_refl out)

end Balance

namespace Account

variable {n : Nat} {ahead may : Prop} {a b : Account}

/-- An account in balance: nothing is out of a task that is not known. -/
def Balanced (n : Nat) (ahead : Prop) (a : Account) : Prop :=
  match a.record with
  | none => a.out = 0 ∧ n = 0
  | some t => Balance n ahead a.out t

theorem Balanced.weaken {ahead' : Prop} (h : a.Balanced n ahead) (weaker : ahead → ahead') :
    a.Balanced n ahead' := by
  rcases a with ⟨out, _ | t⟩
  · exact h
  · have h : Balance n ahead out t := h
    exact ⟨h.begun, h.working, fun done => (h.ended done).imp_right fun ⟨may, rest⟩ =>
      ⟨weaker may, rest⟩⟩

/-- Whether the task is known and done. -/
def isDone (a : Account) : Bool := a.record.any (·.state.isTerminal)

/-- **The handling of a message keeps the balance.** -/
theorem Balanced.entry (h : a.Balanced n ahead) (entry : Entry a b) : b.Balanced n ahead := by
  cases entry with
  | void out dropped =>
    rename_i t
    have h : Balance n ahead (out + 1) t := h
    exact h.of_done (by rw [dropped]; rfl) (Nat.le_succ out) t.expected
  | count out r now counter =>
    cases r with
    | none =>
      have h : out + 1 = 0 ∧ n = 0 := h
      omega
    | some t => exact Balance.count h counter

theorem Balanced.entries (h : a.Balanced n ahead) (entries : Relation.ReflTransGen Entry a b) :
    b.Balanced n ahead := by
  induction entries with
  | refl => exact h
  | tail _ entry ih => exact ih.entry entry

/-- **A move keeps the balance**, if the task may have ended ahead of time or is done already. -/
theorem Balanced.move (h : a.Balanced n ahead) (allowed : may → ahead ∨ a.isDone = true)
    (move : Move may a b) : b.Balanced n ahead := by
  cases move with
  | entry entry => exact h.entry entry
  | warn out r now reason =>
    cases r with
    | none => exact h
    | some t => exact Balance.warn h reason
  | abort out r now description ends yes =>
    cases r with
    | none => exact h
    | some t => exact Balance.abort h (allowed yes) ends description

theorem Move.isDone (move : Move may a b) (done : a.isDone = true) : b.isDone = true := by
  have revised : ∀ {change : Tracker.Change} {r : Option TaskInfo} {now : Timestamp},
      change.Lawful → r.any (·.state.isTerminal) = true →
        (r.map (change.revise now)).any (·.state.isTerminal) = true := by
    intro change r now lawful done
    cases r with
    | none => cases done
    | some t =>
      show (change.revise now t).state.isTerminal = true
      rw [Tracker.Change.revise_of_terminal lawful done]
      exact done
  cases move with
  | entry entry =>
    cases entry with
    | void out dropped => exact done
    | count out r now counter => exact revised trivial done
  | warn out r now reason => exact revised trivial done
  | abort out r now description ends yes =>
    exact revised (Balance.lawful_abort ends description) done

/-- **All moves of an operation keep the balance**, and a task that is done stays so. -/
theorem Balanced.moves (h : a.Balanced n ahead) (allowed : may → ahead ∨ a.isDone = true)
    (moves : Relation.ReflTransGen (Move may) a b) :
    b.Balanced n ahead ∧ (a.isDone = true → b.isDone = true) := by
  induction moves with
  | refl => exact ⟨h, fun done => done⟩
  | tail _ move ih =>
    obtain ⟨balanced, done⟩ := ih
    exact ⟨balanced.move (fun yes => (allowed yes).imp_right done) move,
      fun before => move.isDone (done before)⟩

/-- Of a task that is not known nothing becomes known. -/
theorem eq_of_moves_unknown (moves : Relation.ReflTransGen (Move may) ⟨0, none⟩ a) :
    a = ⟨0, none⟩ := by
  induction moves with
  | refl => rfl
  | tail _ move ih =>
    subst ih
    cases move with
    | entry entry => cases entry
    | warn => rfl
    | abort => rfl

theorem Balanced.of_not_done (h : a.Balanced n True) (open_ : ¬ a.isDone = true) :
    a.Balanced n ahead := by
  rcases a with ⟨out, _ | t⟩
  · exact h
  · have h : Balance n True out t := h
    exact ⟨h.begun, h.working, fun done => absurd done open_⟩

end Account

end Conveyor
