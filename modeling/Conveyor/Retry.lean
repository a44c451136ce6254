import Conveyor.Action
import Conveyor.Clock
import Conveyor.StepError

/-!
# Retries

Every call to the outside world is made under a policy that says how often a failure that may pass
is tried again, and after which delay.

* `RetryPolicy` — no retry, a fixed delay, or one that doubles up to a cap.
* `RetryPolicy.delayBefore?` — the delay before the n-th retry, none once the retries are used up.
* `retrying` — a call under a policy.
* `RetryError` — how such a call fails for good, and `RetryError.toStepError`.
-/

namespace Conveyor

/-- How often a call is tried again and how long to wait before. -/
inductive RetryPolicy where
  /-- The first failure is final. -/
  | none
  /-- The same delay before every retry. -/
  | fixed (maxRetries : Nat) (delay : Millis)
  /-- A delay that doubles from retry to retry, up to a cap. -/
  | exponential (maxRetries : Nat) (initial cap : Millis)
deriving DecidableEq, Repr

namespace RetryPolicy

/-- The policy where nothing else is said: three retries, five seconds apart. -/
def standard : RetryPolicy := fixed 3 5000

/-- The longest delay of a doubling policy that does not set one: five minutes. -/
def standardCap : Millis := 300000

def doubling (maxRetries : Nat) : RetryPolicy := exponential maxRetries 1000 standardCap

def maxRetries : RetryPolicy → Nat
  | none => 0
  | fixed n _ => n
  | exponential n _ _ => n

/-- The factor on the initial delay after `doublings` doublings; it is kept in 32 bits, at whose
greatest value it stops. -/
def growth (doublings : Nat) : Nat :=
  if doublings < 32 then 1 <<< doublings else 4294967295

/-- The delay before retry number `retry`, counted from one; none if the policy does not allow
that retry. -/
def delayBefore? (policy : RetryPolicy) (retry : Nat) : Option Millis :=
  if retry = 0 ∨ policy.maxRetries < retry then Option.none
  else match policy with
    | none => Option.none
    | fixed _ delay => some delay
    | exponential _ initial cap => some (min (initial * growth (retry - 1)) cap)

/-- A delay exists only for the retries that the policy allows. -/
theorem le_maxRetries_of_delayBefore? {policy : RetryPolicy} {retry : Nat} {delay : Millis}
    (h : policy.delayBefore? retry = some delay) : retry ≤ policy.maxRetries := by
  unfold delayBefore? at h
  split at h
  · cases h
  · omega

end RetryPolicy

/-- The final failure of a call under a policy, with what the call was for. -/
inductive RetryError where
  /-- Every attempt failed in a way that might have passed. -/
  | exhausted (purpose : String) (attempts : Nat) (source : Failure)
  /-- An attempt failed in a way that will not pass. -/
  | permanent (purpose : String) (source : Failure)
deriving DecidableEq, Repr

namespace RetryError

def source : RetryError → Failure
  | exhausted _ _ f => f
  | permanent _ f => f

def message : RetryError → String
  | exhausted purpose attempts f =>
      purpose ++ " (gave up after " ++ toString attempts ++ " attempts): " ++ f.text
  | permanent purpose f => purpose ++ ": " ++ f.text

/-- The final failure as a failure whose cause is that of the call. -/
def toFailure (e : RetryError) : Failure := ⟨e.message, e.source.text :: e.source.causes⟩

/-- The final failure as the failure of a step; it is worth another try if the call was. -/
def toStepError (e : RetryError) : StepError :=
  match e with
  | exhausted .. => .retryable e.toFailure
  | permanent .. => .permanent e.toFailure

end RetryError

variable {σ α : Type} [Clock σ]

/-- A call that has been tried `tried` times before, under a policy. -/
def retryingFrom (policy : RetryPolicy) (purpose : String) (call : Action σ StepError α)
    (tried : Nat) : Action σ RetryError α := fun s =>
  match call s with
  | (.ok a, s') => (.ok a, s')
  | (.error (.permanent f), s') => (.error (.permanent purpose f), s')
  | (.error (.retryable f), s') =>
      match _h : policy.delayBefore? (tried + 1) with
      | some delay => retryingFrom policy purpose call (tried + 1) (Clock.sleep delay s')
      | none => (.error (.exhausted purpose (tried + 1) f), s')
termination_by policy.maxRetries - tried
decreasing_by
  have := RetryPolicy.le_maxRetries_of_delayBefore? _h
  omega

/-- **A call under a policy**: made until it succeeds, fails for good, or runs out of retries. -/
def retrying (policy : RetryPolicy) (purpose : String) (call : Action σ StepError α) :
    Action σ RetryError α := retryingFrom policy purpose call 0

/-- A call under a policy, as part of a step. -/
def retryingStep (policy : RetryPolicy) (purpose : String) (call : Action σ StepError α) :
    Action σ StepError α := (retrying policy purpose call).mapError RetryError.toStepError

end Conveyor
