import Conveyor.Runner.Worker

/-!
# Workers among others

Workers that work side by side take turns.  A worker's turn lasts until it has dealt with a batch or
until a stage sleeps; during the sleep it is the turn of others, and the stage wakes up in what they
have made of the services.

* `Errand S` — the message whose stage sleeps, and what else the worker has at hand.
* `Standing S` — where a worker stands at the end of its turn.
* `Worker.turn` — a turn.
-/

namespace Conveyor

/-- A message whose stage sleeps. -/
structure Errand (S : Type) where
  delivery : Delivery
  /-- The messages behind it in its batch. -/
  rest : List Delivery
  /-- How many messages of the batch were acknowledged before it. -/
  acked : Nat
  /-- The services when the stage began. -/
  began : Timed S
  /-- The states in which the sleeps of the stage have ended. -/
  awakenings : List S

/-- Where a worker stands at the end of its turn. -/
inductive Standing (S : Type) where
  /-- A batch is dealt with, of which so many messages were acknowledged. -/
  | served (acked : Nat)
  /-- A stage sleeps until a moment. -/
  | asleep (wake : Millis) (errand : Errand S)

/-- What becomes of a stage that runs on. -/
inductive Headway where
  | ended (outcome : Outcome)
  | asleep (wake : Millis)

namespace Worker

variable {Q T N S : Type} [MessageQueue Q] [TaskStore T] [NotificationSink N]

/-- Lets the stage of an errand run on, until it ends or sleeps. -/
def runOn (w : Worker (Timed S)) (errand : Errand S) (p : Plant Q T N (Timed S)) :
    Headway × Plant Q T N (Timed S) :=
  let (outcome, services) :=
    w.stage.run errand.delivery.envelope (errand.began.among (.others errand.awakenings))
  match services.company with
  | .paused wake left => (.asleep wake, { p with services := { p.services with inner := left } })
  | _ => (.ended outcome, { p with services := services.among .alone })

/-- Deals with the messages of a batch, of which some were acknowledged before, until a stage
sleeps. -/
def serveOn (w : Worker (Timed S)) : List Delivery → Nat → Plant Q T N (Timed S) →
    Standing S × Plant Q T N (Timed S)
  | [], acked, p => (.served acked, p)
  | d :: rest, acked, p =>
      match isVoid d p with
      | (.error _, p) => w.serveOn rest acked (giveBack d p)
      | (.ok true, p) =>
          let (here, p) := w.conclude d none p
          w.serveOn rest (acked + here) p
      | (.ok false, p) =>
          let errand : Errand S := ⟨d, rest, acked, p.services, []⟩
          match w.runOn errand p with
          | (.asleep wake, p) => (.asleep wake errand, p)
          | (.ended outcome, p) =>
              let (here, p) := w.conclude d (some outcome) p
              w.serveOn rest (acked + here) p

/-- Wakes the stage of an errand up and goes on with the batch. -/
def wakeUp (w : Worker (Timed S)) (errand : Errand S) (p : Plant Q T N (Timed S)) :
    Standing S × Plant Q T N (Timed S) :=
  let errand := { errand with awakenings := errand.awakenings ++ [p.services.inner] }
  match w.runOn errand p with
  | (.asleep wake, p) => (.asleep wake errand, p)
  | (.ended outcome, p) =>
      let (here, p) := w.conclude errand.delivery (some outcome) p
      w.serveOn errand.rest (errand.acked + here) p

/-- **A worker's turn**: it goes on with its errand, or claims a batch if it has none. -/
def turn (w : Worker (Timed S)) (errand : Option (Errand S)) (p : Plant Q T N (Timed S)) :
    Standing S × Plant Q T N (Timed S) :=
  match errand with
  | some errand => w.wakeUp errand p
  | none =>
      match w.claim p with
      | (.ok batch, p) => w.serveOn batch 0 p
      | (.error _, p) => (.served 0, p)

end Worker

end Conveyor
