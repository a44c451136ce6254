import Conveyor.Proofs.Ending
import Conveyor.Rehearsal.Fault

/-!
# Calls that fail as planned

A call takes one entry off the plan for its kind and touches no other plan.  If the entry lets it
through, it ends as the call of the store does; if it fails at once, the store is as it was.

* `Faulty.spent` — the plans after a call.
* `Faulty.Smooth` — that no call of a kind is planned to fail; `Faulty.Harmless` — that none takes
  effect and then fails.
* `Faulty.Within` — that nothing more is planned than before.
* **`Faulty.ends_call`** — how a call ends; `ends_call_of_harmless`, if it has no effect when it is
  planned to fail, and `ends_call_of_answers`, if it always answers but for the plan.
* `Faulty.store_of_call_ok`, `Faulty.call_cases` — calls whose answer is known; `store_call` is what
  holds of the store whatever the answer.
-/

namespace Conveyor.Faulty

variable {Op S ε α : Type} [DecidableEq Op] {op other : Op} {f f' : Faulty Op ε S}

/-- The plans after a call of a kind. -/
def spent (op : Op) (f : Faulty Op ε S) : Op → List (Option (Fault ε)) := fun other =>
  if other = op then (f.plan op).tail else f.plan other

omit [DecidableEq Op] in
/-- No call of a kind is planned to fail. -/
def Smooth (op : Op) (f : Faulty Op ε S) : Prop := ∀ fault, some fault ∉ f.plan op

omit [DecidableEq Op] in
/-- No planned failure of a kind of calls comes after the call has taken effect. -/
def Harmless (op : Op) (f : Faulty Op ε S) : Prop :=
  ∀ fault, some fault ∈ f.plan op → fault.afterwards = false

theorem mem_of_mem_spent {entry : Option (Fault ε)} (plan : f'.plan = f.spent op)
    (mem : entry ∈ f'.plan other) : entry ∈ f.plan other := by
  rw [plan, spent] at mem
  split at mem
  · rename_i same
    subst same
    exact List.mem_of_mem_tail mem
  · exact mem

/-- Nothing more is planned than before. -/
def Within (f f' : Faulty Op ε S) : Prop := ∀ op entry, entry ∈ f'.plan op → entry ∈ f.plan op

theorem within_of_spent (plan : f'.plan = f.spent op) : f.Within f' :=
  fun _ _ mem => mem_of_mem_spent plan mem

omit [DecidableEq Op] in
theorem Within.trans {f'' : Faulty Op ε S} (h : f.Within f') (h' : f'.Within f'') : f.Within f'' :=
  fun op entry mem => h op entry (h' op entry mem)

omit [DecidableEq Op] in
theorem Harmless.within (h : f.Harmless op) (w : f.Within f') : f'.Harmless op :=
  fun fault mem => h fault (w op _ mem)

omit [DecidableEq Op] in
theorem Smooth.within (h : f.Smooth op) (w : f.Within f') : f'.Smooth op :=
  fun fault mem => h fault (w op _ mem)

/-- **A call under a plan** ends as it would without one, or fails as planned: before it has done
anything, or afterwards. -/
theorem ends_call {action : Action S ε α} {done : α → S → Prop} {failed : ε → S → Prop}
    (h : action.Ends done failed f.store) :
    (call op action).Ends
      (fun a f' => done a f'.store ∧ f'.plan = f.spent op ∧
        ∀ fault, (f.plan op).head? ≠ some (some fault))
      (fun err f' => f'.plan = f.spent op ∧ (failed err f'.store ∨
        ∃ afterwards, (f.plan op).head? = some (some ⟨err, afterwards⟩) ∧
          if afterwards then ∃ a, done a f'.store else f'.store = f.store)) f := by
  cases plan : f.plan op with
  | nil =>
    have left : f.plan = f.spent op := by
      funext other
      rw [spent]
      split
      · rename_i same
        rw [same, plan, List.tail_nil]
      · rfl
    have none (fault : Fault ε) : ([] : List (Option (Fault ε))).head? ≠ some (some fault) := by
      simp
    rw [Action.Ends, call_of_plan_eq_nil plan]
    exact Action.Ends.on (h.mono (fun a s' done => ⟨done, left, none⟩)
      fun err s' failed => ⟨left, .inl failed⟩)
  | cons entry rest =>
    have left : (f.withPlan op rest).plan = f.spent op := by
      funext other
      rw [spent, plan, List.tail_cons]
      rfl
    have run : call op action f = (obey entry action).on storePart (f.withPlan op rest) := by
      rw [call, plan]
    rw [Action.Ends, run]
    rcases entry with _ | ⟨err, _ | _⟩
    · have none (fault : Fault ε) : (none :: rest).head? ≠ some (some fault) := by simp
      exact Action.Ends.on (h.mono (fun a s' done => ⟨done, left, none⟩)
        fun err s' failed => ⟨left, .inl failed⟩)
    · exact ⟨left, .inr ⟨false, rfl, rfl⟩⟩
    · -- an error of the call itself comes before the planned one
      rcases h.cases with ⟨a, s', made, done⟩ | ⟨other, s', failing, failed⟩
      · have obeyed : obey (some ⟨err, true⟩) action f.store = (.error err, s') :=
          Action.bind_of_ok made
        exact Action.Ends.on (Action.ends_of_error obeyed ⟨left, .inr ⟨true, rfl, a, done⟩⟩)
      · have obeyed : obey (some ⟨err, true⟩) action f.store = (.error other, s') :=
          Action.bind_of_error failing
        exact Action.Ends.on (Action.ends_of_error obeyed ⟨left, .inl failed⟩)

/-- A call that has no effect if it is planned to fail. -/
theorem ends_call_of_harmless {action : Action S ε α} {done : α → S → Prop}
    {failed : ε → S → Prop} (harmless : f.Harmless op) (h : action.Ends done failed f.store) :
    (call op action).Ends
      (fun a f' => done a f'.store ∧ f'.plan = f.spent op ∧
        ∀ fault, (f.plan op).head? ≠ some (some fault))
      (fun err f' => f'.plan = f.spent op ∧ (failed err f'.store ∨
        f'.store = f.store ∧ (f.plan op).head? = some (some ⟨err, false⟩))) f := by
  refine (ends_call h).mono (fun _ _ => id) ?_
  rintro err f' ⟨plan, failed | ⟨afterwards, planned, left⟩⟩
  · exact ⟨plan, .inl failed⟩
  · obtain rfl : afterwards = false := harmless _ (List.mem_of_head? planned)
    exact ⟨plan, .inr ⟨left, planned⟩⟩

/-- A call of a store that always answers fails only if it is planned to. -/
theorem ends_call_of_answers {action : Action S ε α} {done : α → S → Prop}
    (h : action.Ends done (fun _ _ => False) f.store) :
    (call op action).Ends (fun a f' => done a f'.store ∧ f.Within f')
      (fun _ _ => ¬ f.Smooth op) f := by
  refine (ends_call h).mono (fun a f' ⟨done, plan, _⟩ => ⟨done, within_of_spent plan⟩) ?_
  rintro err f' ⟨-, failed | ⟨_, planned, -⟩⟩
  · exact failed.elim
  · exact fun smooth => smooth _ (List.mem_of_head? planned)

/-- **A call that answers** was made. -/
theorem store_of_call_ok {action : Action S ε α} {a : α} (h : call op action f = (.ok a, f')) :
    action f.store = (.ok a, f'.store) := by
  have alone : action.Ends (fun a s' => action f.store = (.ok a, s')) (fun _ _ => True)
      f.store := by
    rw [Action.Ends]
    split
    · assumption
    · trivial
  exact ((ends_call alone).of_ok h).1

/-- A call leaves the store alone or does to it what it would do without a plan. -/
theorem store_call (op : Op) (action : Action S ε α) (f : Faulty Op ε S) :
    (call op action f).2.store = f.store ∨ (call op action f).2.store = (action f.store).2 := by
  have alone : action.Ends (fun _ s' => s' = (action f.store).2)
      (fun _ s' => s' = (action f.store).2) f.store := by
    rw [Action.Ends]
    split <;> rename_i run <;> rw [run]
  have ends : (call op action).Ends _ _ f := ends_call alone
  rcases ends.cases with
    ⟨a, f', made, done, -⟩ | ⟨err, f', failed, -, after | ⟨afterwards, -, left⟩⟩
  · rw [made]
    exact .inr done
  · rw [failed]
    exact .inr after
  · rw [failed]
    cases afterwards with
    | false => exact .inl left
    | true =>
      obtain ⟨a, done⟩ := left
      exact .inr done

/-- **A call that would succeed** either does, or fails and leaves the store as it was. -/
theorem call_cases {action : Action S ε α} {a : α} {s' : S} (run : action f.store = (.ok a, s'))
    (harmless : f.Harmless op) :
    ∃ f', (∀ other, f.Harmless other → f'.Harmless other) ∧
      ((call op action f = (.ok a, f') ∧ f'.store = s') ∨
        ∃ err, call op action f = (.error err, f') ∧ f'.store = f.store) := by
  have alone : action.Ends (fun b t => b = a ∧ t = s') (fun _ _ => False) f.store :=
    Action.ends_of_ok run ⟨rfl, rfl⟩
  rcases (ends_call_of_harmless harmless alone).cases with
    ⟨b, f', made, ⟨rfl, store⟩, plan, -⟩ | ⟨err, f', failed, plan, answered | ⟨same, -⟩⟩
  · exact ⟨f', fun _ h => h.within (within_of_spent plan), .inl ⟨made, store⟩⟩
  · exact answered.elim
  · exact ⟨f', fun _ h => h.within (within_of_spent plan), .inr ⟨err, failed, same⟩⟩

end Conveyor.Faulty
