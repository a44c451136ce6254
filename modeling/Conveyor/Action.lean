/-!
# Actions on a state

Whatever changes something on the conveyor (a store call, a stage, a worker's poll, a whole
drain) is an *action*: from a state it gives an answer or an error, and the next state.  An error
does not undo anything: what an action did to the state before it failed stays done, which is how
a queue or a database behaves when a later call of the same operation fails.

* `Action σ ε α` — actions on states `σ` that answer an `α` or fail with an `ε`.
* `Part σ τ` and `Action.on` — a part of a state, and running an action on that part only.
* `Action.attempt`, `Action.recover` — turning an error into an answer.
* `Action.sum` — running one counting action per item of a list and adding up the counts.
* `Action.again` — running an action several times.
-/

namespace Conveyor

/-- An action on a state `σ`: it answers an `α` or fails with an `ε`, and leaves the next state
either way. -/
def Action (σ ε α : Type) : Type := σ → Except ε α × σ

/-- A part of a state: how to look at it and how to put it back. -/
structure Part (σ τ : Type) where
  get : σ → τ
  set : τ → σ → σ

namespace Part

variable {σ τ υ : Type}

def fst : Part (σ × τ) σ := ⟨Prod.fst, fun s p => (s, p.2)⟩

def snd : Part (σ × τ) τ := ⟨Prod.snd, fun t p => (p.1, t)⟩

def comp (outer : Part σ τ) (inner : Part τ υ) : Part σ υ where
  get s := inner.get (outer.get s)
  set u s := outer.set (inner.set u (outer.get s)) s

end Part

namespace Action

variable {σ τ ε ε' α β : Type}

/-- Answers `a` and changes nothing. -/
protected def pure (a : α) : Action σ ε α := fun s => (.ok a, s)

/-- Runs `x` and then, if it answered, `f` on its answer; an error of `x` ends the action in the
state that `x` left. -/
protected def bind (x : Action σ ε α) (f : α → Action σ ε β) : Action σ ε β := fun s =>
  match x s with
  | (.ok a, s') => f a s'
  | (.error e, s') => (.error e, s')

instance : Monad (Action σ ε) where
  pure := Action.pure
  bind := Action.bind

def fail (e : ε) : Action σ ε α := fun s => (.error e, s)

def get : Action σ ε σ := fun s => (.ok s, s)

def gets (f : σ → α) : Action σ ε α := fun s => (.ok (f s), s)

def modify (f : σ → σ) : Action σ ε Unit := fun s => (.ok (), f s)

/-- Changes the state by `f` and answers what `f` gives beside it. -/
def modifyGet (f : σ → α × σ) : Action σ ε α := fun s => (.ok (f s).1, (f s).2)

def ofExcept (r : Except ε α) : Action σ ε α := fun s => (r, s)

/-- The same action with its error reworded. -/
def mapError (f : ε → ε') (a : Action σ ε α) : Action σ ε' α := fun s =>
  match a s with
  | (.ok x, s') => (.ok x, s')
  | (.error e, s') => (.error (f e), s')

/-- Runs `a` and answers how it ended; never fails. -/
def attempt (a : Action σ ε α) : Action σ ε' (Except ε α) := fun s => (.ok (a s).1, (a s).2)

/-- Runs `a`; an error is answered by `handler`, in the state that the failed action left. -/
def recover (a : Action σ ε α) (handler : ε → Action σ ε' α) : Action σ ε' α := fun s =>
  match a s with
  | (.ok x, s') => (.ok x, s')
  | (.error e, s') => handler e s'

/-- Runs an action on a part of the state and leaves the rest alone. -/
def on (part : Part σ τ) (a : Action τ ε α) : Action σ ε α := fun s =>
  ((a (part.get s)).1, part.set (a (part.get s)).2 s)

/-- Runs `f` on every item in order and adds up the answers; the first error ends it. -/
def sum (items : List α) (f : α → Action σ ε Nat) : Action σ ε Nat :=
  match items with
  | [] => pure 0
  | item :: rest => do
      let here ← f item
      let there ← sum rest f
      pure (here + there)

/-- Runs an action a number of times; the last answer counts, if there is one. -/
def again (a : Action σ ε α) : Nat → Action σ ε (Option α)
  | 0 => pure none
  | 1 => do
      let answer ← a
      pure (some answer)
  | n + 2 => do
      let _ ← a
      again a (n + 1)

/-! ## What each operation does to a state -/

@[simp] theorem pure_apply (a : α) (s : σ) : (pure a : Action σ ε α) s = (.ok a, s) := rfl

theorem bind_apply (x : Action σ ε α) (f : α → Action σ ε β) (s : σ) :
    (x >>= f) s = match x s with
      | (.ok a, s') => f a s'
      | (.error e, s') => (.error e, s') := rfl

theorem bind_of_ok {x : Action σ ε α} {f : α → Action σ ε β} {s s' : σ} {a : α}
    (h : x s = (.ok a, s')) : (x >>= f) s = f a s' := by
  rw [bind_apply, h]

theorem bind_of_error {x : Action σ ε α} {f : α → Action σ ε β} {s s' : σ} {e : ε}
    (h : x s = (.error e, s')) : (x >>= f) s = (.error e, s') := by
  rw [bind_apply, h]

/-- Where one action after the other succeeds, both do. -/
theorem exists_of_bind_eq_ok {x : Action σ ε α} {f : α → Action σ ε β} {s s' : σ} {b : β}
    (h : (x >>= f) s = (.ok b, s')) :
    ∃ a between, x s = (.ok a, between) ∧ f a between = (.ok b, s') := by
  rw [bind_apply] at h
  rcases run : x s with ⟨r, between⟩
  rw [run] at h
  cases r with
  | ok a => exact ⟨a, between, rfl, h⟩
  | error e => cases h

/-- To reword an answer changes nothing else. -/
theorem snd_bind_pure (x : Action σ ε α) (f : α → β) (s : σ) :
    ((x >>= fun a => pure (f a)) s).2 = (x s).2 := by
  rw [bind_apply]
  rcases x s with ⟨r, s'⟩
  cases r <;> rfl

theorem mapError_of_ok {x : Action σ ε α} {s s' : σ} {a : α} (f : ε → ε')
    (h : x s = (.ok a, s')) : x.mapError f s = (.ok a, s') := by
  rw [mapError, h]

theorem mapError_of_error {x : Action σ ε α} {s s' : σ} {e : ε} (f : ε → ε')
    (h : x s = (.error e, s')) : x.mapError f s = (.error (f e), s') := by
  rw [mapError, h]

theorem recover_of_ok {x : Action σ ε α} {s s' : σ} {a : α} (handler : ε → Action σ ε' α)
    (h : x s = (.ok a, s')) : x.recover handler s = (.ok a, s') := by
  rw [recover, h]

theorem recover_of_error {x : Action σ ε α} {s s' : σ} {e : ε} (handler : ε → Action σ ε' α)
    (h : x s = (.error e, s')) : x.recover handler s = handler e s' := by
  rw [recover, h]

@[simp] theorem fail_apply (e : ε) (s : σ) : (fail e : Action σ ε α) s = (.error e, s) := rfl

@[simp] theorem get_apply (s : σ) : (get : Action σ ε σ) s = (.ok s, s) := rfl

@[simp] theorem gets_apply (f : σ → α) (s : σ) : (gets f : Action σ ε α) s = (.ok (f s), s) := rfl

@[simp] theorem modify_apply (f : σ → σ) (s : σ) :
    (modify f : Action σ ε Unit) s = (.ok (), f s) := rfl

@[simp] theorem modifyGet_apply (f : σ → α × σ) (s : σ) :
    (modifyGet f : Action σ ε α) s = (.ok (f s).1, (f s).2) := rfl

@[simp] theorem ofExcept_apply (r : Except ε α) (s : σ) :
    (ofExcept r : Action σ ε α) s = (r, s) := rfl

@[simp] theorem attempt_apply (a : Action σ ε α) (s : σ) :
    (attempt a : Action σ ε' (Except ε α)) s = (.ok (a s).1, (a s).2) := rfl

@[simp] theorem on_apply (part : Part σ τ) (a : Action τ ε α) (s : σ) :
    a.on part s = ((a (part.get s)).1, part.set (a (part.get s)).2 s) := rfl

instance : LawfulMonad (Action σ ε) := by
  refine LawfulMonad.mk' _ ?_ ?_ ?_
  · intro α x
    funext s
    show Action.bind x _ s = x s
    unfold Action.bind
    rcases x s with ⟨r, s'⟩
    cases r <;> rfl
  · intro α β a f
    rfl
  · intro α β γ x f g
    funext s
    simp only [bind_apply]
    rcases x s with ⟨r, s'⟩
    cases r <;> rfl

end Action

end Conveyor
