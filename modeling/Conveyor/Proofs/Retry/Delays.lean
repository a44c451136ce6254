import Conveyor.Config.Basic
import Mathlib.Algebra.Group.Nat.Defs

/-!
# How the delays of a policy develop

A doubling policy multiplies its first delay by a factor that is kept in 32 bits, and cuts the
product at its cap.  While the factor is a power of two, every delay is twice the one before or the
cap.  After 32 retries the factor stands still at one less than the next power, so the delays stand
still as well, and whether that shows depends on whether they have come to the cap by then.

* `RetryPolicy.growth_eq` — the factor, as a number.
* `delayBefore?_eq_none_iff`, `delayBefore?_exponential` — which retries are allowed, and the delay
  before each.
* `Development`, **`developed`** — the delays of a doubling policy: where they double, that they
  never fall, that they never exceed the cap.
* `undoubled_below_cap` — a delay that is neither twice the one before nor the cap.
* `RetryConfig.delayBefore?_policy` — the delays that settings ask for; under their cap of five
  minutes the factor never shows.
-/

namespace Conveyor

namespace RetryPolicy

/-- The greatest factor on a first delay. -/
def greatestGrowth : Nat := 4294967295

theorem growth_eq (doublings : Nat) : growth doublings = min (2 ^ doublings) greatestGrowth := by
  rw [growth, greatestGrowth]
  split
  · rename_i few
    have bound : 2 ^ doublings ≤ 2 ^ 31 := Nat.pow_le_pow_right (by decide) (by omega)
    rw [Nat.one_shiftLeft]
    omega
  · rename_i many
    have bound : 2 ^ 32 ≤ 2 ^ doublings := Nat.pow_le_pow_right (by decide) (by omega)
    omega

theorem growth_le_growth {n m : Nat} (h : n ≤ m) : growth n ≤ growth m := by
  have powers : 2 ^ n ≤ 2 ^ m := Nat.pow_le_pow_right (by decide) h
  rw [growth_eq, growth_eq]
  omega

theorem growth_succ_of_lt {n : Nat} (h : n < 31) : growth (n + 1) = 2 * growth n := by
  have bound : 2 ^ n ≤ 2 ^ 30 := Nat.pow_le_pow_right (by decide) (by omega)
  rw [growth_eq, growth_eq, greatestGrowth, Nat.pow_succ]
  omega

/-- From the 32nd doubling on the factor is the greatest, which is no double of another. -/
theorem growth_of_le {n : Nat} (h : 31 ≤ n) :
    growth (n + 1) = greatestGrowth ∧ 2 ^ 31 ≤ growth n := by
  have bound : 2 ^ 31 ≤ 2 ^ n := Nat.pow_le_pow_right (by decide) h
  rw [growth_eq, growth_eq, greatestGrowth, Nat.pow_succ]
  omega

/-! ## Which retries are allowed -/

theorem delayBefore?_eq_none_iff {policy : RetryPolicy} {retry : Nat} :
    policy.delayBefore? retry = Option.none ↔ retry = 0 ∨ policy.maxRetries < retry := by
  unfold delayBefore?
  split
  · rename_i refused
    exact iff_of_true rfl refused
  · rename_i allowed
    refine iff_of_false ?_ allowed
    cases policy with
    | none => exact absurd (Nat.pos_of_ne_zero (mt .inl allowed)) (mt .inr allowed)
    | fixed n delay => nofun
    | exponential n initial cap => nofun

theorem delayBefore?_exponential {maxRetries retry : Nat} (initial cap : Nat) (pos : 1 ≤ retry)
    (le : retry ≤ maxRetries) : (exponential maxRetries initial cap).delayBefore? retry
      = some (min (initial * growth (retry - 1)) cap) := by
  have allowed : ¬ (retry = 0 ∨ (exponential maxRetries initial cap).maxRetries < retry) := by
    rw [RetryPolicy.maxRetries]
    omega
  unfold delayBefore?
  rw [if_neg allowed]

/-! ## Doubling -/

/-- Twice a delay and the cap, against the delay for a factor beyond the doubles. -/
theorem min_growth_eq_iff {initial cap : Nat} {n : Nat} (h : 31 ≤ n) :
    min (initial * growth (n + 1)) cap = min (2 * min (initial * growth n) cap) cap ↔
      initial = 0 ∨ cap ≤ initial * greatestGrowth := by
  obtain ⟨greatest, large⟩ := growth_of_le h
  have within : growth n ≤ greatestGrowth := greatest ▸ growth_le_growth (Nat.le_succ n)
  have below : initial * growth n ≤ initial * greatestGrowth := Nat.mul_le_mul_left _ within
  rw [greatest]
  constructor
  · intro same
    refine Decidable.or_iff_not_imp_left.2 fun some => Nat.le_of_not_lt fun room => ?_
    -- below the cap the greatest factor would have to be a double
    have double : initial * greatestGrowth = initial * (2 * growth n) := by
      rw [Nat.mul_left_comm]
      omega
    have := Nat.eq_of_mul_eq_mul_left (Nat.pos_of_ne_zero some) double
    rw [greatestGrowth] at this
    omega
  · rintro (rfl | reached)
    · simp
    · have twice : greatestGrowth ≤ 2 * growth n := by
        rw [greatestGrowth]
        omega
      have beyond : initial * greatestGrowth ≤ 2 * (initial * growth n) := by
        rw [Nat.mul_left_comm]
        exact Nat.mul_le_mul_left _ twice
      omega

/-- How the delays of a doubling policy develop, in whatever unit they are measured. -/
structure Development (maxRetries : Nat) (initial cap : Nat) : Prop where
  /-- There is a delay before every retry that is allowed, and before no other. -/
  allowed : ∀ retry, (exponential maxRetries initial cap).delayBefore? retry = Option.none ↔
    retry = 0 ∨ maxRetries < retry
  first : 1 ≤ maxRetries →
    (exponential maxRetries initial cap).delayBefore? 1 = some (min initial cap)
  /-- A delay is twice the one before or the cap, except beyond the 32nd retry as long as the
  greatest factor does not reach the cap. -/
  doubles : ∀ retry, 1 ≤ retry → retry < maxRetries →
    ((exponential maxRetries initial cap).delayBefore? (retry + 1)
        = ((exponential maxRetries initial cap).delayBefore? retry).map
            (fun delay => min (2 * delay) cap) ↔
      retry < 32 ∨ initial = 0 ∨ cap ≤ initial * greatestGrowth)
  /-- What the delay is there. -/
  stands : ∀ retry, 33 ≤ retry → retry ≤ maxRetries →
    (exponential maxRetries initial cap).delayBefore? retry
      = some (min (initial * greatestGrowth) cap)
  rises : ∀ (retry later delay delay' : Nat), retry ≤ later →
    (exponential maxRetries initial cap).delayBefore? retry = some delay →
    (exponential maxRetries initial cap).delayBefore? later = some delay' → delay ≤ delay'
  capped : ∀ retry (delay : Nat),
    (exponential maxRetries initial cap).delayBefore? retry = some delay → delay ≤ cap

/-- A delay is that of an allowed retry. -/
theorem of_delayBefore?_exponential {maxRetries retry : Nat} {initial cap delay : Nat}
    (h : (exponential maxRetries initial cap).delayBefore? retry = some delay) :
    1 ≤ retry ∧ retry ≤ maxRetries ∧ delay = min (initial * growth (retry - 1)) cap := by
  have allowed : ¬ (retry = 0 ∨ maxRetries < retry) := by
    intro refused
    rw [delayBefore?_eq_none_iff.2 refused] at h
    cases h
  have pos : 1 ≤ retry := by omega
  have le : retry ≤ maxRetries := by omega
  rw [delayBefore?_exponential initial cap pos le] at h
  exact ⟨pos, le, (Option.some.inj h).symm⟩

/-- **The delays of a doubling policy.** -/
theorem developed (maxRetries : Nat) (initial cap : Nat) :
    Development maxRetries initial cap where
  allowed _ := delayBefore?_eq_none_iff
  first some := by
    rw [delayBefore?_exponential initial cap (Nat.le_refl 1) some]
    simp [growth]
  doubles retry pos lt := by
    obtain ⟨n, rfl⟩ : ∃ n, retry = n + 1 := ⟨retry - 1, by omega⟩
    rw [delayBefore?_exponential initial cap pos (Nat.le_of_lt lt),
      delayBefore?_exponential initial cap (show 1 ≤ n + 1 + 1 by omega) lt, Option.map_some,
      Option.some.injEq, Nat.add_sub_cancel, Nat.add_sub_cancel]
    by_cases few : n < 31
    · have double : initial * growth (n + 1) = 2 * (initial * growth n) := by
        rw [growth_succ_of_lt few, Nat.mul_left_comm]
      exact iff_of_true (by omega) (.inl (by omega))
    · rw [min_growth_eq_iff (by omega)]
      have many : ¬ n + 1 < 32 := by omega
      exact ⟨.inr, fun h => h.resolve_left many⟩
  stands retry many le := by
    obtain ⟨n, rfl⟩ : ∃ n, retry = n + 2 := ⟨retry - 2, by omega⟩
    have greatest : growth (n + 1) = greatestGrowth := (growth_of_le (by omega)).1
    rw [delayBefore?_exponential initial cap (by omega) le]
    simp only [Nat.add_one_sub_one, greatest]
  rises retry later delay delay' le here there := by
    obtain ⟨-, -, rfl⟩ := of_delayBefore?_exponential here
    obtain ⟨-, -, rfl⟩ := of_delayBefore?_exponential there
    have grown : initial * growth (retry - 1) ≤ initial * growth (later - 1) :=
      Nat.mul_le_mul_left _ (growth_le_growth (Nat.sub_le_sub_right le 1))
    omega
  capped retry delay here := by
    obtain ⟨-, -, rfl⟩ := of_delayBefore?_exponential here
    exact Nat.min_le_right ..

/-- **A delay that does not double** although it is far from the cap. -/
theorem undoubled_below_cap :
    (exponential 40 1 8589934592).delayBefore? 32 = some 2147483648 ∧
      (exponential 40 1 8589934592).delayBefore? 33 = some 4294967295 ∧
      (4294967295 : Nat) ≠ min (2 * 2147483648) 8589934592 := by
  decide

end RetryPolicy

/-! ## The delays that settings ask for -/

namespace RetryConfig

/-- The delay before a retry, counted from one: always the same, or twice the one before as long as
that is no more than five minutes. -/
def delayBefore (c : RetryConfig) (retry : Nat) : Millis :=
  match c.backoff with
  | .fixed => c.delay
  | .exponential => min (c.delay * 2 ^ (retry - 1)) 300000

theorem maxRetries_policy (c : RetryConfig) : c.policy.maxRetries = c.maxRetries := by
  obtain ⟨maxRetries, delay, backoff⟩ := c
  rw [policy]
  by_cases none : maxRetries = 0
  · simp [none, RetryPolicy.maxRetries]
  · cases backoff <;> simp [none, RetryPolicy.maxRetries]

/-- However often a delay of whole milliseconds is doubled, five minutes are reached before the
factor stands still. -/
theorem min_growth_standardCap (delay : Nat) (doublings : Nat) :
    min (delay * RetryPolicy.growth doublings) RetryPolicy.standardCap
      = min (delay * 2 ^ doublings) 300000 := by
  rw [RetryPolicy.growth_eq, RetryPolicy.standardCap]
  by_cases few : 2 ^ doublings ≤ RetryPolicy.greatestGrowth
  · rw [Nat.min_eq_left few]
  · rw [Nat.min_eq_right (Nat.le_of_not_le few)]
    rcases Nat.eq_zero_or_pos delay with rfl | some
    · simp
    · have there := Nat.mul_le_mul_right RetryPolicy.greatestGrowth some
      have beyond := Nat.mul_le_mul_left delay (Nat.le_of_not_le few)
      rw [RetryPolicy.greatestGrowth] at there beyond
      rw [RetryPolicy.greatestGrowth]
      omega

/-- **The delays that settings ask for**, before each retry that they allow. -/
theorem delayBefore?_policy (c : RetryConfig) (retry : Nat) :
    c.policy.delayBefore? retry
      = if retry = 0 ∨ c.maxRetries < retry then none else some (c.delayBefore retry) := by
  split
  · rename_i refused
    rw [← maxRetries_policy] at refused
    exact RetryPolicy.delayBefore?_eq_none_iff.2 refused
  · rename_i allowed
    obtain ⟨maxRetries, delay, backoff⟩ := c
    have some : maxRetries ≠ 0 := by
      simp only at allowed
      omega
    cases backoff with
    | fixed => simp_all [policy, delayBefore, RetryPolicy.delayBefore?, RetryPolicy.maxRetries]
    | exponential =>
      have pos : 1 ≤ retry := by omega
      have le : retry ≤ maxRetries := Nat.le_of_not_lt (mt .inr allowed)
      have exponential : policy ⟨maxRetries, delay, .exponential⟩
          = .exponential maxRetries delay RetryPolicy.standardCap := if_neg some
      rw [exponential, RetryPolicy.delayBefore?_exponential delay _ pos le,
        min_growth_standardCap]
      rfl

end RetryConfig

end Conveyor
