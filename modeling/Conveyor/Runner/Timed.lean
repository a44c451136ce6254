import Conveyor.Runner.Basic
import Conveyor.Runner.Turn

/-!
# Running for a time

The workers of a runner work side by side: each polls again at once as long as it finds something
to do, and waits otherwise.  After the given time all are stopped.  A worker that is stopped while
its stage sleeps leaves the rest of its batch in flight, with nothing recorded of it.

* `Shift` — a worker and the moment at which it is due.
* `Runner.workFor` — the workers at work for a time; `Runner.runFor` recovers first.
-/

namespace Conveyor

/-- A worker, the moment of its next turn, and what it then goes on with. -/
structure Shift (S : Type) where
  due : Millis
  worker : Worker (Timed S)
  errand : Option (Errand S)

/-- The first shift that is due, and the others in their order. -/
def firstDue? {S : Type} : List (Shift S) → Option (Shift S × List (Shift S))
  | [] => none
  | s :: rest =>
      match firstDue? rest with
      | none => some (s, [])
      | some (first, others) =>
          if s.due ≤ first.due then some (s, rest) else some (first, s :: others)

/-- The shift after a turn: a worker that has acknowledged something goes on at once. -/
def Shift.next {S : Type} (shift : Shift S) (pollInterval : Millis) : Standing S → Shift S
  | .served 0 => { shift with due := shift.due + sleepTime pollInterval, errand := none }
  | .served (_ + 1) => { shift with errand := none }
  | .asleep wake errand => { shift with due := wake, errand := some errand }

/-- The shifts with the next one of a worker that had its turn at a moment: if it is due at once it
comes first, else behind all others. -/
def reschedule {S : Type} (moment : Millis) (next : Shift S) (others : List (Shift S)) :
    List (Shift S) :=
  if next.due = moment then next :: others else others ++ [next]

namespace Runner

variable {Q T N S : Type} [MessageQueue Q] [TaskStore T] [NotificationSink N]

/-- Lets the shifts work that are due before the deadline, for at most `limit` turns. -/
def workShifts (r : Runner (Timed S)) (deadline : Millis) :
    Nat → List (Shift S) → Plant Q T N (Timed S) → Plant Q T N (Timed S)
  | 0, _, p => p
  | limit + 1, shifts, p =>
      match firstDue? shifts with
      | none => p
      | some (shift, others) =>
          if deadline ≤ shift.due then p
          else
            let (standing, p) := shift.worker.turn shift.errand
              { p with services := p.services.setClock shift.due }
            let next := shift.next r.pollInterval standing
            r.workShifts deadline limit (reschedule shift.due next others) p

/-- A bound on the turns within a time: each acknowledges a message or is followed by a sleep.  So
many are enough where every acknowledged message has fewer stages before it, or is gone, and every
sleep ends later than it began: then a run for a time is work without a bound, `Runner.Works`.
Elsewhere, where topics lead in circles, workers may find something to do at one moment for ever; a
run stops there when its turns are used up. -/
def turnsWithin (r : Runner (Timed S)) (duration : Millis) (p : Plant Q T N (Timed S)) : Nat :=
  r.horizon p + r.workers.length * (duration + 1) + 1

def workFor (r : Runner (Timed S)) (duration : Millis) (p : Plant Q T N (Timed S)) :
    Plant Q T N (Timed S) :=
  let start := p.services.elapsed
  let deadline := start + sleepTime duration
  let shifts := r.workers.map fun w => ⟨start, w, none⟩
  let p := r.workShifts deadline (r.turnsWithin (sleepTime duration) p) shifts p
  { p with services := p.services.setClock deadline }

/-- The workers at work for a time, once what an earlier run left in flight is recovered; a run
that is stopped at once does not begin. -/
def runFor (r : Runner (Timed S)) (duration : Millis) (p : Plant Q T N (Timed S)) :
    Plant Q T N (Timed S) :=
  r.workFor duration (if 0 < duration then (r.recover p).2 else p)

end Runner

end Conveyor
