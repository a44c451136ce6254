import Conveyor.Action
import Mathlib.Algebra.GroupWithZero.Nat
import Mathlib.Data.List.TakeDrop
import Mathlib.Logic.Relation

/-!
# Work that interleaves

Several members of a crew work on one shared state at the same time.  Every call of a store is
atomic, so a member does its work in steps of one store call each, and between two of its steps the
others may take any number of theirs.  Which member is next is left open: what is proved of all
runs of a crew holds under every schedule.

* `Routine` — the next step of a member, by the position to which it has come.
* `Crew.Step` and `Crew.Run` — one member takes a step, and any number of steps.
* `Crew.Sound` — whoever has a step to take can take it.
* **`Crew.Run.keeps`** — what every step keeps, every run keeps.
* `Crew.follow` — the run that a schedule prescribes.
-/

namespace Conveyor

/-- The next step of a member from its position, which leads it to another one; none once it is
through. -/
abbrev Routine (σ ε L : Type) := L → Option (Action σ ε L)

/-- Members at their positions, and the state on which they work. -/
structure Crew (σ L : Type) where
  members : List L
  shared : σ

namespace Crew

variable {σ ε L : Type} {routine : Routine σ ε L} {c c' : Crew σ L}

/-- One member takes its next step; all others stay where they are. -/
inductive Step (routine : Routine σ ε L) : Crew σ L → Crew σ L → Prop where
  | member {before after : List L} {l l' : L} {s s' : σ} {act : Action σ ε L}
      (next : routine l = some act) (run : act s = (.ok l', s')) :
      Step routine ⟨before ++ l :: after, s⟩ ⟨before ++ l' :: after, s'⟩

/-- Steps of any members in any order. -/
abbrev Run (routine : Routine σ ε L) : Crew σ L → Crew σ L → Prop :=
  Relation.ReflTransGen (Step routine)

/-- No member's next step fails. -/
def Sound (routine : Routine σ ε L) (c : Crew σ L) : Prop :=
  ∀ l ∈ c.members, ∀ act, routine l = some act → ∃ l' s', act c.shared = (.ok l', s')

/-- In a sound crew a member that is not through can take its next step. -/
theorem Sound.exists_step (sound : c.Sound routine) {l : L} (mem : l ∈ c.members)
    (busy : routine l ≠ none) : ∃ c', Step routine c c' := by
  obtain ⟨act, next⟩ := Option.ne_none_iff_exists'.1 busy
  obtain ⟨l', s', run⟩ := sound l mem act next
  obtain ⟨before, after, place⟩ := List.append_of_mem mem
  obtain ⟨members, shared⟩ := c
  obtain rfl : members = before ++ l :: after := place
  exact ⟨_, .member next run⟩

theorem Step.alone {l l' : L} {s s' : σ} {act : Action σ ε L} (next : routine l = some act)
    (run : act s = (.ok l', s')) : Step routine ⟨[l], s⟩ ⟨[l'], s'⟩ := by
  have step : Step routine ⟨[] ++ l :: [], s⟩ ⟨[] ++ l' :: [], s'⟩ := .member next run
  exact step

/-- **What every step keeps**, every run keeps. -/
theorem Run.keeps {P : Crew σ L → Prop} (run : Run routine c c') (h : P c)
    (step : ∀ {c c'}, P c → Step routine c c' → P c') : P c' := by
  induction run with
  | refl => exact h
  | tail _ last ih => exact step ih last

/-! ## One member among others -/

section

variable {α : Type} {before after : List L} {l l' : L} {p : L → Prop} {f : L → Option α}

theorem forall_mem_splice (h : ∀ m ∈ before ++ l :: after, p m) (here : p l') :
    ∀ m ∈ before ++ l' :: after, p m := by
  intro m mem
  rcases List.mem_append.1 mem with mem | mem
  · exact h m (List.mem_append_left _ mem)
  · rcases List.mem_cons.1 mem with rfl | mem
    · exact here
    · exact h m (List.mem_append_right _ (List.mem_cons_of_mem _ mem))

theorem exists_mem_splice (h : ∃ m ∈ before ++ l :: after, p m) (other : ¬ p l) :
    ∃ m ∈ before ++ l' :: after, p m := by
  obtain ⟨m, mem, holds⟩ := h
  rcases List.mem_append.1 mem with mem | mem
  · exact ⟨m, List.mem_append_left _ mem, holds⟩
  · rcases List.mem_cons.1 mem with rfl | mem
    · exact absurd holds other
    · exact ⟨m, List.mem_append_right _ (List.mem_cons_of_mem _ mem), holds⟩

theorem filterMap_splice {found : List α} (h : (before ++ l :: after).filterMap f = found)
    (same : f l' = f l) : (before ++ l' :: after).filterMap f = found := by
  rw [← h, List.filterMap_append, List.filterMap_append, List.filterMap_cons, List.filterMap_cons,
    same]

theorem length_splice (before after : List L) (l l' : L) :
    (before ++ l' :: after).length = (before ++ l :: after).length := by
  simp

/-- One member fewer counts if the old position did, and one more if the new one does. -/
theorem countP_splice (before after : List L) (l l' : L) (p : L → Bool) :
    (before ++ l' :: after).countP p + (if p l then 1 else 0)
      = (before ++ l :: after).countP p + if p l' then 1 else 0 := by
  simp only [List.countP_append, List.countP_cons]
  omega

theorem sum_splice (before after : List L) (l l' : L) (f : L → Nat) :
    ((before ++ l' :: after).map f).sum + f l = ((before ++ l :: after).map f).sum + f l' := by
  simp only [List.map_append, List.map_cons, List.sum_append, List.sum_cons]
  omega

end

/-- **What a member does alone**, it can do among others that wait meanwhile. -/
theorem Run.among {l l' : L} {s s' : σ} (run : Run routine ⟨[l], s⟩ ⟨[l'], s'⟩)
    (before after : List L) :
    Run routine ⟨before ++ l :: after, s⟩ ⟨before ++ l' :: after, s'⟩ := by
  have alone := run.keeps
    (P := fun c => ∃ m, c.members = [m] ∧
      Run routine ⟨before ++ l :: after, s⟩ ⟨before ++ m :: after, c.shared⟩)
    ⟨l, rfl, .refl⟩ <| by
      rintro _ _ ⟨m, only, earlier⟩ (⟨next, made⟩ : Step routine _ _)
      obtain ⟨rfl, ⟨⟩⟩ := (List.append_eq_singleton_iff.1 only).resolve_right (by simp)
      exact ⟨_, rfl, earlier.tail (.member next made)⟩
  obtain ⟨m, only, whole⟩ := alone
  cases only
  exact whole

/-! ## Schedules -/

/-- The crew after the turn of one member, which takes its next step if it can. -/
def turn (routine : Routine σ ε L) (c : Crew σ L) (i : Nat) : Crew σ L :=
  match c.members[i]? with
  | none => c
  | some l =>
      match routine l with
      | none => c
      | some act =>
          match act c.shared with
          | (.ok l', s') => ⟨c.members.set i l', s'⟩
          | (.error _, _) => c

/-- The crew after the members have had their turns in some order. -/
def follow (routine : Routine σ ε L) (schedule : List Nat) (c : Crew σ L) : Crew σ L :=
  schedule.foldl (turn routine) c

theorem Step.of_getElem? {i : Nat} {l l' : L} {s' : σ} {act : Action σ ε L}
    (here : c.members[i]? = some l) (next : routine l = some act)
    (run : act c.shared = (.ok l', s')) : Step routine c ⟨c.members.set i l', s'⟩ := by
  obtain ⟨members, shared⟩ := c
  obtain ⟨lt, rfl⟩ := List.getElem?_eq_some_iff.1 here
  have step : Step routine ⟨members.take i ++ members[i] :: members.drop (i + 1), shared⟩
      ⟨members.take i ++ l' :: members.drop (i + 1), s'⟩ := .member next run
  rw [List.getElem_cons_drop lt, List.take_append_drop] at step
  rwa [List.set_eq_take_append_cons_drop, if_pos lt]

theorem run_turn (c : Crew σ L) (i : Nat) : Run routine c (c.turn routine i) := by
  unfold turn
  split
  · exact .refl
  · rename_i l here
    split
    · exact .refl
    · rename_i act next
      split
      · rename_i l' s' run
        exact .single (.of_getElem? here next run)
      · exact .refl

/-- A schedule prescribes a run. -/
theorem run_follow (schedule : List Nat) (c : Crew σ L) :
    Run routine c (c.follow routine schedule) := by
  induction schedule generalizing c with
  | nil => exact .refl
  | cons i later ih => exact (run_turn c i).trans (ih (c.turn routine i))

end Crew

end Conveyor
