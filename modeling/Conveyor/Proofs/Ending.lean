import Conveyor.Retry

/-!
# How actions end

An action answers or it fails, and it leaves a state either way.  What is said of both ends is put
together along the action: a failure ends the whole, and an answer goes on to the next part.

* `Action.Ends` — what holds of an answer and the state behind it, and what of a failure.
* `Ends.bind`, `Ends.mapError`, `Ends.recover`, `Ends.on` — the ends of actions that are put
  together.
* **`Action.Ends.retrying`** — the ends of a call under a policy, whatever the policy.
-/

namespace Conveyor.Action

variable {σ τ ε ε' α β : Type} {x : Action σ ε α} {s s' : σ}

/-- How an action ends from a state: what holds of an answer, and what of a failure, each with the
state that is left. -/
def Ends (done : α → σ → Prop) (failed : ε → σ → Prop) (x : Action σ ε α) (s : σ) : Prop :=
  match x s with
  | (.ok a, s') => done a s'
  | (.error err, s') => failed err s'

section

variable {done done' : α → σ → Prop} {failed failed' : ε → σ → Prop}

theorem ends_of_ok {a : α} (run : x s = (.ok a, s')) (h : done a s') : x.Ends done failed s := by
  rw [Ends, run]
  exact h

theorem ends_of_error {err : ε} (run : x s = (.error err, s')) (h : failed err s') :
    x.Ends done failed s := by
  rw [Ends, run]
  exact h

namespace Ends

theorem of_ok {a : α} (h : x.Ends done failed s) (run : x s = (.ok a, s')) : done a s' := by
  rwa [Ends, run] at h

theorem of_error {err : ε} (h : x.Ends done failed s) (run : x s = (.error err, s')) :
    failed err s' := by
  rwa [Ends, run] at h

theorem cases (h : x.Ends done failed s) :
    (∃ a s', x s = (.ok a, s') ∧ done a s') ∨ ∃ err s', x s = (.error err, s') ∧ failed err s' := by
  cases run : x s with
  | mk r s' =>
    cases r with
    | ok a => exact .inl ⟨a, s', rfl, h.of_ok run⟩
    | error err => exact .inr ⟨err, s', rfl, h.of_error run⟩

theorem mono (h : x.Ends done failed s) (answers : ∀ a s', done a s' → done' a s')
    (fails : ∀ err s', failed err s' → failed' err s') : x.Ends done' failed' s := by
  rcases h.cases with ⟨a, s', run, h⟩ | ⟨err, s', run, h⟩
  · exact ends_of_ok run (answers a s' h)
  · exact ends_of_error run (fails err s' h)

/-- **One action after another**: a failure of the first ends both. -/
theorem bind {f : α → Action σ ε β} {ended : β → σ → Prop} (h : x.Ends done failed s)
    (next : ∀ a s', done a s' → (f a).Ends ended failed s') : (x >>= f).Ends ended failed s := by
  rcases h.cases with ⟨a, s', run, h⟩ | ⟨err, s', run, h⟩
  · rw [Ends, bind_of_ok run]
    exact next a s' h
  · exact ends_of_error (bind_of_error run) h

/-- An action whose first part answers ends as the rest does. -/
theorem after {f : α → Action σ ε β} {ended : β → σ → Prop} {a : α} (run : x s = (.ok a, s'))
    (rest : (f a).Ends ended failed s') : (x >>= f).Ends ended failed s := by
  rwa [Ends, bind_of_ok run]

/-- An action whose answer may be made into another. -/
theorem forget {left : σ → Prop} {f : α → β} (h : x.Ends (fun _ => left) failed s) :
    (x >>= fun a => pure (f a)).Ends (fun _ => left) failed s :=
  h.bind fun _ _ h => ends_of_ok rfl h

theorem mapError {g : ε → ε'} {failed : ε' → σ → Prop}
    (h : x.Ends done (fun err => failed (g err)) s) : (x.mapError g).Ends done failed s := by
  rcases h.cases with ⟨a, s', run, h⟩ | ⟨err, s', run, h⟩
  · exact ends_of_ok (mapError_of_ok g run) h
  · exact ends_of_error (mapError_of_error g run) h

/-- A failure that is answered by another action. -/
theorem recover {handler : ε → Action σ ε' α} {failed' : ε' → σ → Prop}
    (h : x.Ends done failed s)
    (handled : ∀ err s', failed err s' → (handler err).Ends done failed' s') :
    (x.recover handler).Ends done failed' s := by
  rcases h.cases with ⟨a, s', run, h⟩ | ⟨err, s', run, h⟩
  · exact ends_of_ok (recover_of_ok handler run) h
  · rw [Ends, recover_of_error handler run]
    exact handled err s' h

/-- An action whose failure does not matter. -/
theorem attempt {left : σ → Prop} {failed : ε' → σ → Prop}
    (h : x.Ends (fun _ => left) (fun _ => left) s) : x.attempt.Ends (fun _ => left) failed s := by
  refine ends_of_ok (attempt_apply x s) ?_
  rcases h.cases with ⟨a, s', run, h⟩ | ⟨err, s', run, h⟩
  · rwa [run]
  · rwa [run]

/-- An action on a part of a state. -/
theorem on {part : Part τ σ} {t : τ} {done : α → τ → Prop} {failed : ε → τ → Prop}
    (h : x.Ends (fun a s' => done a (part.set s' t)) (fun err s' => failed err (part.set s' t))
      (part.get t)) : (x.on part).Ends done failed t := by
  rcases h.cases with ⟨a, s', run, h⟩ | ⟨err, s', run, h⟩
  · refine ends_of_ok ?_ h
    rw [on_apply, run]
  · refine ends_of_error ?_ h
    rw [on_apply, run]

/-- An action on the first half of a state leaves the other half. -/
theorem on_fst {u : τ} (h : x.Ends done failed s) :
    (x.on .fst).Ends (fun a t => t.2 = u ∧ done a t.1) (fun err t => t.2 = u ∧ failed err t.1)
      (s, u) :=
  .on (h.mono (fun _ _ h => ⟨rfl, h⟩) fun _ _ h => ⟨rfl, h⟩)

end Ends

end

section

variable [Clock σ] {call : Action σ StepError α} {policy : RetryPolicy} {tried : Nat} {f : Failure}

/-- A failure that may pass is followed by a sleep and another try, if there is one left. -/
theorem retryingFrom_of_again (purpose : String) (run : call s = (.error (.retryable f), s'))
    {delay : Millis} (again : policy.delayBefore? (tried + 1) = some delay) :
    retryingFrom policy purpose call tried s
      = retryingFrom policy purpose call (tried + 1) (Clock.sleep delay s') := by
  rw [retryingFrom, run]
  simp only
  split
  · rename_i other same
    rw [again] at same
    rw [Option.some.inj same]
  · rename_i none
    rw [again] at none
    cases none

theorem retryingFrom_of_exhausted (purpose : String) (run : call s = (.error (.retryable f), s'))
    (last : policy.delayBefore? (tried + 1) = none) :
    retryingFrom policy purpose call tried s
      = (.error (.exhausted purpose (tried + 1) f), s') := by
  rw [retryingFrom, run]
  simp only
  split
  · rename_i delay again
    rw [last] at again
    cases again
  · rfl

end

/-- **A call under a policy** ends as one of its tries does, if what a failed try leaves is what the
next one needs, and a sleep does no harm to it. -/
theorem Ends.retrying [Clock σ] {P : σ → Prop} {done : α → σ → Prop}
    {call : Action σ StepError α} (tries : ∀ s, P s → call.Ends done (fun _ => P) s)
    (sleeps : ∀ s delay, P s → P (Clock.sleep delay s)) (policy : RetryPolicy) (purpose : String)
    (h : P s) : (retrying policy purpose call).Ends done (fun _ => P) s := by
  have further : ∀ left tried, policy.maxRetries - tried = left → ∀ s, P s →
      (retryingFrom policy purpose call tried).Ends done (fun _ => P) s := by
    intro left
    induction left using Nat.strongRecOn with
    | ind left ih =>
      rintro tried rfl s h
      rcases (tries s h).cases with ⟨a, s', run, h⟩ | ⟨err, s', run, h⟩
      · exact ends_of_ok (by rw [retryingFrom, run]) h
      · cases err with
        | permanent f => exact ends_of_error (by rw [retryingFrom, run]) h
        | retryable f =>
          cases again : policy.delayBefore? (tried + 1) with
          | none => exact ends_of_error (retryingFrom_of_exhausted purpose run again) h
          | some delay =>
            have allowed := RetryPolicy.le_maxRetries_of_delayBefore? again
            rw [Ends, retryingFrom_of_again purpose run again]
            exact ih _ (by omega) (tried + 1) rfl _ (sleeps _ _ h)
  exact further _ 0 rfl s h

theorem Ends.retryingStep [Clock σ] {P : σ → Prop} {done : α → σ → Prop}
    {call : Action σ StepError α} (tries : ∀ s, P s → call.Ends done (fun _ => P) s)
    (sleeps : ∀ s delay, P s → P (Clock.sleep delay s)) (policy : RetryPolicy) (purpose : String)
    (h : P s) : (retryingStep policy purpose call).Ends done (fun _ => P) s :=
  (Ends.retrying tries sleeps policy purpose h).mapError

end Conveyor.Action
