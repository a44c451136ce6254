import Conveyor.Proofs.Ending
import Conveyor.Proofs.Retry.Delays
import Conveyor.Proofs.Tracker.Calls
import Mathlib.Data.Nat.Find

/-!
# The tries of a call under a policy

A call is made until a result asks for no other try, or the retries are used up.  Its results are
given beforehand, as a sequence without end, and the moments of the calls are noted, so that what
is said of them holds of whatever is called.  A sleep ends after thirty years at the latest: so does
the wait for a retry, if the settings ask for a longer delay.

* `played` — a call whose results are given; `FirstSettled` — the first that asks for no other try.
* `RetryConfig.waitBefore` — the time that passes before a retry.
* `RetryConfig.underway` — the state in which a try begins; `retryingFrom_underway` is one try
  after which there is another, `retryingFrom_conclude` the last one, `retrying_underway` all tries
  before one.
* `Retried`, **`retried_as_configured`** — the calls, their moments and the answer.
* `retried_before_delay` — a wait that is shorter than the delay.
-/

namespace Conveyor

variable {α : Type}

/-! ## Results that are given -/

/-- A call whose results are given, numbered from one.  It notes the moments at which it is made. -/
def played (results : Nat → Except StepError α) :
    Action (Timed (List Millis)) StepError α := fun t =>
  (results (t.inner.length + 1), { t with inner := t.inner ++ [t.elapsed] })

/-- A result that asks for another try. -/
def AsksAgain (result : Except StepError α) : Prop := ∃ f, result = .error (.retryable f)

/-- The number of the first result that does not ask for another try. -/
structure FirstSettled (results : Nat → Except StepError α) (k : Nat) : Prop where
  pos : 1 ≤ k
  settled : ¬ AsksAgain (results k)
  before : ∀ j, 1 ≤ j → j < k → AsksAgain (results j)

theorem FirstSettled.eq {results : Nat → Except StepError α} {k k' : Nat}
    (h : FirstSettled results k) (h' : FirstSettled results k') : k = k' := by
  rcases Nat.lt_trichotomy k k' with lt | same | gt
  · exact absurd (h'.before k h.pos lt) h.settled
  · exact same
  · exact absurd (h.before k' h'.pos gt) h'.settled

/-- What a call under a policy answers if the last of its tries, by number, has a result. -/
def conclude (purpose : String) (attempts : Nat) :
    Except StepError α → Except RetryError α
  | .ok a => .ok a
  | .error (.permanent f) => .error (.permanent purpose f)
  | .error (.retryable f) => .error (.exhausted purpose attempts f)

/-- As the failure of a step, the final failure is worth another try if the last result was. -/
theorem isRetryable_of_conclude {purpose : String} {attempts : Nat} {result : Except StepError α}
    {e : RetryError} (h : conclude purpose attempts result = .error e) :
    ∃ err, result = .error err ∧ e.toStepError.isRetryable = err.isRetryable := by
  cases result with
  | ok a => cases h
  | error err => cases err <;> cases h <;> exact ⟨_, rfl, rfl⟩

/-! ## Moments -/

namespace RetryConfig

/-- The time that passes before a retry, counted from one. -/
def waitBefore (c : RetryConfig) (retry : Nat) : Millis :=
  match c.backoff with
  | .fixed => min c.delay longestSleep
  | .exponential => min (c.delay * 2 ^ (retry - 1)) 300000

theorem sleepTime_delayBefore (c : RetryConfig) (retry : Nat) :
    sleepTime (c.delayBefore retry) = c.waitBefore retry := by
  rw [delayBefore, waitBefore]
  cases c.backoff with
  | fixed => rfl
  | exponential =>
    have cap : (300000 : Nat) ≤ longestSleep := by decide
    exact Nat.min_eq_left (Nat.le_trans (Nat.min_le_right ..) cap)

/-- The moment of the try that has some before it. -/
def momentOf (c : RetryConfig) : Nat → Millis
  | 0 => 0
  | tried + 1 => c.momentOf tried + c.waitBefore (tried + 1)

/-- The state in which the try begins that has some before it. -/
def underway (c : RetryConfig) (now : Timestamp) (tried : Nat) : Timed (List Millis) where
  inner := (List.range tried).map c.momentOf
  now := now
  elapsed := c.momentOf tried
  company := .alone

/-- The state in which that try ends. -/
def tried (c : RetryConfig) (now : Timestamp) (tried : Nat) : Timed (List Millis) :=
  { c.underway now tried with inner := (List.range (tried + 1)).map c.momentOf }

variable {c : RetryConfig} {now : Timestamp} {purpose : String}
  {results : Nat → Except StepError α} {n : Nat}

theorem played_underway (results : Nat → Except StepError α) :
    played results (c.underway now n) = (results (n + 1), c.tried now n) := by
  simp [played, underway, tried, List.range_succ]

/-- **A try after which there is another.** -/
theorem retryingFrom_underway (purpose : String) (allowed : n < c.maxRetries)
    (again : AsksAgain (results (n + 1))) :
    retryingFrom c.policy purpose (played results) n (c.underway now n)
      = retryingFrom c.policy purpose (played results) (n + 1) (c.underway now (n + 1)) := by
  obtain ⟨f, result⟩ := again
  have run : played results (c.underway now n) = (.error (.retryable f), c.tried now n) := by
    rw [played_underway, result]
  have delay : c.policy.delayBefore? (n + 1) = some (c.delayBefore (n + 1)) := by
    rw [delayBefore?_policy, if_neg (by omega)]
  have slept : Clock.sleep (c.delayBefore (n + 1)) (c.tried now n) = c.underway now (n + 1) := by
    have alone : (c.tried now n).company = .alone := rfl
    refine (Timed.sleep_of_alone alone _).trans ?_
    rw [sleepTime_delayBefore]
    rfl
  rw [Action.retryingFrom_of_again purpose run delay, slept]

/-- **The last try.** -/
theorem retryingFrom_conclude (purpose : String)
    (last : ¬ AsksAgain (results (n + 1)) ∨ n = c.maxRetries) :
    retryingFrom c.policy purpose (played results) n (c.underway now n)
      = (conclude purpose (n + 1) (results (n + 1)), c.tried now n) := by
  have run : played results (c.underway now n) = (results (n + 1), c.tried now n) :=
    played_underway results
  cases result : results (n + 1) with
  | ok a =>
    rw [result] at run
    rw [retryingFrom, run]
    rfl
  | error err =>
    rw [result] at run
    cases err with
    | permanent f =>
      rw [retryingFrom, run]
      rfl
    | retryable f =>
      obtain rfl : n = c.maxRetries := last.resolve_left fun settled => settled ⟨f, result⟩
      have none : c.policy.delayBefore? (c.maxRetries + 1) = none := by
        rw [delayBefore?_policy, if_pos (.inr (Nat.lt_succ_self _))]
      exact Action.retryingFrom_of_exhausted purpose run none

/-- All tries before one ask for another. -/
theorem retrying_underway (purpose : String) (now : Timestamp) (allowed : n ≤ c.maxRetries)
    (again : ∀ j, 1 ≤ j → j ≤ n → AsksAgain (results j)) :
    retrying c.policy purpose (played results) (.start now [])
      = retryingFrom c.policy purpose (played results) n (c.underway now n) := by
  induction n with
  | zero => rfl
  | succ n ih =>
    have earlier := ih (Nat.le_of_succ_le allowed) fun j pos le => again j pos (Nat.le_succ_of_le le)
    rw [earlier]
    exact retryingFrom_underway purpose allowed (again (n + 1) (Nat.succ_pos n) (Nat.le_refl _))

end RetryConfig

/-! ## The whole call -/

/-- A call as settings ask for, whose results are given: how often it was made and when, and what
was answered. -/
structure Retried (c : RetryConfig) (purpose : String) (results : Nat → Except StepError α)
    (answer : Except RetryError α) (left : Timed (List Millis)) : Prop where
  /-- It is made until a result asks for no other try, but no more often than allowed. -/
  settled : ∀ k, FirstSettled results k → left.inner.length = min k (c.maxRetries + 1)
  unsettled : (∀ k, ¬ FirstSettled results k) → left.inner.length = c.maxRetries + 1
  begins : left.inner[0]? = some 0
  /-- One wait lies between two calls. -/
  waits : ∀ j, 1 ≤ j → j < left.inner.length →
    ∃ moment, left.inner[j - 1]? = some moment ∧ left.inner[j]? = some (moment + c.waitBefore j)
  /-- Nothing is waited for after the last call. -/
  ends : left.inner.getLast? = some left.elapsed
  succeeds : ∀ k a, FirstSettled results k → k ≤ c.maxRetries + 1 → results k = .ok a →
    answer = .ok a
  fails : ∀ k f, FirstSettled results k → k ≤ c.maxRetries + 1 →
    results k = .error (.permanent f) → answer = .error (.permanent purpose f)
  /-- It gives up if all results that it came to asked for another try. -/
  exhausted : (∀ k, FirstSettled results k → c.maxRetries + 1 < k) →
    ∃ f, results (c.maxRetries + 1) = .error (.retryable f) ∧
      answer = .error (.exhausted purpose (c.maxRetries + 1) f)
  /-- As the failure of a step, its failure is worth another try if the last result was. -/
  retryable : ∀ e, answer = .error e → ∃ err, results left.inner.length = .error err ∧
    e.toStepError.isRetryable = err.isRetryable

section

variable {c : RetryConfig} {purpose : String} {results : Nat → Except StepError α} {n : Nat}

/-- There is a last try. -/
theorem exists_last (c : RetryConfig) (results : Nat → Except StepError α) :
    ∃ n ≤ c.maxRetries, (∀ j, 1 ≤ j → j ≤ n → AsksAgain (results j)) ∧
      (¬ AsksAgain (results (n + 1)) ∨ n = c.maxRetries) := by
  classical
  have some : ∃ n, ¬ AsksAgain (results (n + 1)) ∨ n = c.maxRetries := ⟨_, .inr rfl⟩
  refine ⟨Nat.find some, Nat.find_min' some (.inr rfl), fun j pos le => ?_, Nat.find_spec some⟩
  obtain ⟨i, rfl⟩ : ∃ i, j = i + 1 := ⟨j - 1, by omega⟩
  exact not_not.1 fun settled => Nat.find_min some le (.inl settled)

/-- A last try tells which result is the first that asks for no other. -/
theorem firstSettled_of_last {k : Nat} (again : ∀ j, 1 ≤ j → j ≤ n → AsksAgain (results j))
    (last : ¬ AsksAgain (results (n + 1)) ∨ n = c.maxRetries) (h : FirstSettled results k) :
    k = n + 1 ∨ n = c.maxRetries ∧ n + 1 < k := by
  have behind : n < k := Nat.lt_of_not_le fun le => h.settled (again k h.pos le)
  rcases last with settled | all
  · exact .inl (h.eq ⟨Nat.succ_pos n, settled, fun j pos lt => again j pos (Nat.le_of_lt_succ lt)⟩)
  · rcases Nat.eq_or_lt_of_le (Nat.succ_le_of_lt behind) with same | beyond
    · exact .inl same.symm
    · exact .inr ⟨all, beyond⟩

/-- **A call under the policy that settings describe**, whatever its results. -/
theorem retried_as_configured (c : RetryConfig) (purpose : String)
    (results : Nat → Except StepError α) (now : Timestamp) :
    Retried c purpose results (retrying c.policy purpose (played results) (.start now [])).1
      (retrying c.policy purpose (played results) (.start now [])).2 := by
  obtain ⟨n, allowed, again, last⟩ := exists_last c results
  have run := (RetryConfig.retrying_underway purpose now allowed again).trans
    (RetryConfig.retryingFrom_conclude purpose last)
  have calls : (c.tried now n).inner.length = n + 1 := by simp [RetryConfig.tried]
  have moment : ∀ j < n + 1, (c.tried now n).inner[j]? = some (c.momentOf j) := by
    intro j lt
    simp [RetryConfig.tried, lt]
  rw [run]
  constructor
  case settled =>
    intro k first
    rw [calls]
    rcases firstSettled_of_last again last first with rfl | ⟨rfl, beyond⟩ <;> omega
  case unsettled =>
    intro never
    have all : n = c.maxRetries := last.resolve_left fun settled =>
      never (n + 1) ⟨Nat.succ_pos n, settled, fun j pos lt => again j pos (Nat.le_of_lt_succ lt)⟩
    rw [calls, all]
  case begins => exact moment 0 (Nat.succ_pos n)
  case waits =>
    intro j pos lt
    rw [calls] at lt
    obtain ⟨i, rfl⟩ : ∃ i, j = i + 1 := ⟨j - 1, by omega⟩
    exact ⟨c.momentOf i, moment i (by omega), moment (i + 1) lt⟩
  case ends =>
    rw [List.getLast?_eq_getElem?, calls]
    exact moment n (Nat.lt_succ_self n)
  case succeeds =>
    intro k a first within result
    rcases firstSettled_of_last again last first with rfl | ⟨rfl, beyond⟩
    · rw [result]
      rfl
    · omega
  case fails =>
    intro k f first within result
    rcases firstSettled_of_last again last first with rfl | ⟨rfl, beyond⟩
    · rw [result]
      rfl
    · omega
  case exhausted =>
    intro late
    have asked : AsksAgain (results (n + 1)) := by
      refine not_not.1 fun settled => ?_
      have := late (n + 1)
        ⟨Nat.succ_pos n, settled, fun j pos lt => again j pos (Nat.le_of_lt_succ lt)⟩
      omega
    obtain rfl : n = c.maxRetries := last.resolve_left fun settled => settled asked
    obtain ⟨f, result⟩ := asked
    exact ⟨f, result, by rw [result]; rfl⟩
  case retryable =>
    intro e failed
    rw [calls]
    exact isRetryable_of_conclude failed

end

/-- Settings that ask for one millisecond more than thirty years before the only retry. -/
def thirtyYears : RetryConfig := ⟨1, 946080000001, .fixed⟩

/-- **A wait that is shorter than the delay**: the retry comes after thirty years. -/
theorem retried_before_delay :
    (retrying thirtyYears.policy "read"
      (played fun call => if call = 1 then .error (.retryable (.ofText "busy")) else .ok ())
      (.start .epoch [])).2.inner = [0, 946080000000] ∧
    (946080000000 : Nat) < 0 + thirtyYears.delay := by
  decide +kernel

end Conveyor
