import Conveyor.Clock
import Conveyor.Queue.Basic
import Conveyor.Tracker.Basic

/-!
# The plant

Everything that one process works on: the queue on which records wait, the tracker that follows
their tasks, and the services that stages call.

* `Plant Q T N V` — the three parts.
* `Plant.onQueue`, `onTracker`, `onServices` — a call of one of them.
-/

namespace Conveyor

/-- A queue, a tracker and services. -/
structure Plant (Q T N V : Type) where
  queue : Q
  tracker : Tracker T N
  services : V

namespace Plant

variable {Q T N V ε α : Type}

def queuePart : Part (Plant Q T N V) Q := ⟨Plant.queue, fun q p => { p with queue := q }⟩

def trackerPart : Part (Plant Q T N V) (Tracker T N) :=
  ⟨Plant.tracker, fun t p => { p with tracker := t }⟩

def servicesPart : Part (Plant Q T N V) V := ⟨Plant.services, fun v p => { p with services := v }⟩

def onQueue (call : Action Q ε α) : Action (Plant Q T N V) ε α := call.on queuePart

def onTracker (call : Action (Tracker T N) ε α) : Action (Plant Q T N V) ε α :=
  call.on trackerPart

def onServices (call : Action V ε α) : Action (Plant Q T N V) ε α := call.on servicesPart

variable [Clock V]

/-- A plant goes by the clock of its services. -/
instance : Clock (Plant Q T N V) where
  now p := Clock.now p.services
  sleep delay p := { p with services := Clock.sleep delay p.services }

/-- A call of the tracker that stamps what it does with the time of day. -/
def report (call : Timestamp → Action (Tracker T N) ε α) : Action (Plant Q T N V) ε α := fun p =>
  onTracker (call (Clock.now p)) p

end Plant

end Conveyor
