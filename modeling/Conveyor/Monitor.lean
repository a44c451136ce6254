import Conveyor.Config.Basic
import Conveyor.Plant
import Conveyor.Services.Basic

/-!
# The monitor of unfinished tasks

A task in progress belongs to the run that works on it.  If that run is gone, nobody will finish
the task, so the monitor fails it; it can then be submitted again.

* `Monitor.sweep` — looks at every task in progress once; a run is asked for only once a sweep.
* `Monitor.runFor` — sweeps at intervals for a time.
-/

namespace Conveyor

/-- When the monitor sweeps. -/
structure Monitor where
  interval : Millis
  interval_ge : 1000 ≤ interval
  runOnStart : Bool
deriving DecidableEq

namespace Monitor

/-- A monitor that sweeps at intervals of at least a second. -/
def new (interval : Millis) (runOnStart : Bool) : Monitor where
  interval := max 1000 interval
  interval_ge := Nat.le_max_left ..
  runOnStart := runOnStart

/-- The reason for which a task of a run fails that is gone. -/
def goneReason (owner : String) : String :=
  "The run " ++ owner ++ " processing this task is no longer active"

variable {Q T N V : Type} [TaskStore T] [NotificationSink N] [Clock V]

/-- Whether a run is alive, as far as known: the registry is asked only if it was not heard of
before in this sweep, and if it does not answer, it may be asked again. -/
def livenessOf (registry : RunRegistry V) (known : Dict Bool) (owner : String) :
    Action (Plant Q T N V) StoreError (Option Bool × Dict Bool) :=
  match known.get? owner with
  | some alive => pure (some alive, known)
  | none => do
      match ← (Plant.onServices (registry.isActive owner)).attempt with
      | .ok alive => pure (some alive, known.insert owner alive)
      | .error _ => pure (none, known)

/-- Fails the tasks among some whose run is gone and answers their number. -/
def sweepTasks (registry : RunRegistry V) :
    List TaskInfo → Dict Bool → Action (Plant Q T N V) StoreError Nat
  | [], _ => pure 0
  | task :: rest, known =>
      match task.owner with
      | none => sweepTasks registry rest known
      | some owner => do
          let (alive, known) ← livenessOf registry known owner
          if alive = some false then
            let failed ← Plant.report fun now => Tracker.failTask now task.id (goneReason owner)
            let others ← sweepTasks registry rest known
            pure (others + if failed then 1 else 0)
          else sweepTasks registry rest known

/-- **Fails all tasks in progress whose run is gone** and answers their number. -/
def sweep (registry : RunRegistry V) : Action (Plant Q T N V) StoreError Nat := do
  let running ← Plant.onTracker (Tracker.list [.processing])
  sweepTasks registry running Dict.empty

/-- Sweeps a number of times, whether or not a sweep succeeds. -/
def sweeps (registry : RunRegistry V) : Nat → Plant Q T N V → Plant Q T N V
  | 0, p => p
  | n + 1, p => sweeps registry n (sweep registry p).2

/-- How often a monitor sweeps that runs for a time: at the start if it is to, and at the end of
every interval that ends before the time is over. -/
def sweepsWithin (m : Monitor) (duration : Millis) : Nat :=
  (if m.runOnStart ∧ 0 < duration then 1 else 0) + (duration - 1) / m.interval

def runFor (m : Monitor) (registry : RunRegistry V) (duration : Millis) (p : Plant Q T N V) :
    Plant Q T N V :=
  Clock.sleep duration (sweeps registry (m.sweepsWithin (sleepTime duration)) p)

end Monitor

end Conveyor
