import Conveyor.Proofs.Ending
import Conveyor.Rehearsal.Fault

/-!
# What actions keep

An action *keeps* a property of states if it holds after the action whenever it held before, be the
answer an error or not.  What the parts of an action keep, the action keeps.

* `Action.Keeps` — the notion, which is that of both ends alike (`Keeps.ends`, `keeps_of_ends`),
  with `Keeps.bind`, `Keeps.mapError` and their like.
* **`Action.Keeps.retrying`** — what a call and a sleep keep, the call keeps under any policy.
* `retryingStep_of_ok` — a call that succeeds at once is not tried again.
* `Action.Keeps.obey`, `Faulty.call_eq` — calls that fail as planned.
* `Action.Answers` — what all answers of an action are like.
-/

namespace Conveyor

namespace Action

variable {σ ε ε' α β : Type} {P : σ → Prop} {x : Action σ ε α} {f : α → Action σ ε β}

/-- A property that holds after an action if it held before. -/
def Keeps (P : σ → Prop) (x : Action σ ε α) : Prop := ∀ s, P s → P (x s).2

theorem keeps_pure (a : α) : Keeps P (pure a : Action σ ε α) := fun _ h => h

theorem keeps_fail (e : ε) : Keeps P (.fail e : Action σ ε α) := fun _ h => h

theorem keeps_gets (look : σ → α) : Keeps P (.gets look : Action σ ε α) := fun _ h => h

theorem keeps_ofExcept (r : Except ε α) : Keeps P (.ofExcept r : Action σ ε α) := fun _ h => h

/-- What an action keeps, it leaves at either end. -/
theorem Keeps.ends {s : σ} (hx : Keeps P x) (h : P s) : x.Ends (fun _ => P) (fun _ => P) s := by
  have kept := hx s h
  cases run : x s with
  | mk r s' =>
    rw [run] at kept
    cases r with
    | ok a => exact ends_of_ok run kept
    | error err => exact ends_of_error run kept

theorem keeps_of_ends (h : ∀ s, P s → x.Ends (fun _ => P) (fun _ => P) s) : Keeps P x := by
  intro s kept
  rcases (h s kept).cases with ⟨a, s', run, kept⟩ | ⟨err, s', run, kept⟩ <;> rwa [run]

theorem Keeps.bind (hx : Keeps P x) (hf : ∀ a, Keeps P (f a)) : Keeps P (x >>= f) :=
  keeps_of_ends fun _ h => (hx.ends h).bind fun a _ h => (hf a).ends h

theorem Keeps.mapError (hx : Keeps P x) (g : ε → ε') : Keeps P (x.mapError g) :=
  keeps_of_ends fun _ h => .mapError (hx.ends h)

theorem Keeps.recover (hx : Keeps P x) {handler : ε → Action σ ε' α}
    (h : ∀ e, Keeps P (handler e)) : Keeps P (x.recover handler) :=
  keeps_of_ends fun _ kept => (hx.ends kept).recover fun e _ kept => (h e).ends kept

/-- **What a call and a sleep keep**, the call keeps under any policy. -/
theorem Keeps.retrying [Clock σ] {call : Action σ StepError α} (keeps : Keeps P call)
    (sleeps : ∀ s delay, P s → P (Clock.sleep delay s)) (policy : RetryPolicy)
    (purpose : String) : Keeps P (retrying policy purpose call) :=
  keeps_of_ends fun _ h => .retrying (fun _ h => keeps.ends h) sleeps policy purpose h

theorem Keeps.retryingStep [Clock σ] {call : Action σ StepError α} (keeps : Keeps P call)
    (sleeps : ∀ s delay, P s → P (Clock.sleep delay s)) (policy : RetryPolicy)
    (purpose : String) : Keeps P (retryingStep policy purpose call) :=
  (keeps.retrying sleeps policy purpose).mapError _

/-- What a call keeps, it keeps whatever fault it obeys. -/
theorem Keeps.obey (keeps : Keeps P x) (fault : Option (Fault ε)) : Keeps P (obey fault x) := by
  rcases fault with _ | ⟨err, _ | _⟩
  · exact keeps
  · exact keeps_fail err
  · exact keeps.bind fun _ => keeps_fail err

theorem Keeps.sum {items : List β} {f : β → Action σ ε Nat}
    (h : ∀ item ∈ items, Keeps P (f item)) : Keeps P (.sum items f) := by
  induction items with
  | nil => exact keeps_pure 0
  | cons item rest ih =>
    obtain ⟨here, there⟩ := List.forall_mem_cons.1 h
    exact here.bind fun _ => (ih there).bind fun _ => keeps_pure _

/-- What every answer of an action is like. -/
def Answers (A : α → Prop) (x : Action σ ε α) : Prop := ∀ s a, (x s).1 = .ok a → A a

theorem answers_pure {A : α → Prop} {a : α} (h : A a) :
    Answers A (pure a : Action σ ε α) := by
  rintro s a' answer
  obtain rfl := Except.ok.inj answer
  exact h

theorem Answers.mono {A A' : α → Prop} (h : Answers A x) (le : ∀ a, A a → A' a) : Answers A' x :=
  fun s a answer => le a (h s a answer)

theorem Answers.bind {A : β → Prop} (h : ∀ a, Answers A (f a)) : Answers A (x >>= f) := by
  intro s b answer
  cases run : x s with
  | mk r s' =>
    cases r with
    | ok a =>
      rw [bind_of_ok run] at answer
      exact h a s' b answer
    | error e =>
      rw [bind_of_error run] at answer
      cases answer

end Action

section

variable {σ α : Type} [Clock σ] {call : Action σ StepError α} {s s' : σ} {a : α}

/-- A call that succeeds at once is not tried again. -/
theorem retrying_of_ok (policy : RetryPolicy) (purpose : String) (h : call s = (.ok a, s')) :
    retrying policy purpose call s = (.ok a, s') := by
  rw [retrying, retryingFrom, h]

theorem retryingStep_of_ok (policy : RetryPolicy) (purpose : String) (h : call s = (.ok a, s')) :
    retryingStep policy purpose call s = (.ok a, s') :=
  Action.mapError_of_ok _ (retrying_of_ok policy purpose h)

end

/-- **A call under a plan** does what its fault lets it do, and uses up a plan but begins none. -/
theorem Faulty.call_eq {Op ε S α : Type} [DecidableEq Op] (op : Op) (action : Action S ε α)
    (f : Faulty Op ε S) : ∃ fault plan,
      Faulty.call op action f
        = ((obey fault action f.store).1, ⟨(obey fault action f.store).2, plan⟩) ∧
      ∀ other, f.plan other = [] → plan other = [] := by
  rw [Faulty.call]
  cases planned : f.plan op with
  | nil => exact ⟨none, f.plan, rfl, fun _ h => h⟩
  | cons fault rest =>
    refine ⟨fault, _, rfl, fun other unplanned => ?_⟩
    have apart : other ≠ op := fun same => by
      rw [same, planned] at unplanned
      cases unplanned
    exact (if_neg apart).trans unplanned

end Conveyor
