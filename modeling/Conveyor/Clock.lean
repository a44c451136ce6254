import Conveyor.Action
import Conveyor.Time.Timestamp

/-!
# Clocks

Time passes for a state only while something sleeps.  A state that can sleep has a clock of whole
milliseconds; the time of day, which stamps what happens, is read beside it.

A step that sleeps alone wakes up in the state in which it fell asleep.  **Among others** it wakes
up in what they have made of that state.  The states in which its coming sleeps end are then given
beforehand; at the first sleep whose end is not known yet the step *pauses*, and whatever it does
from there on is void.  So a step is brought through one more sleep by going through it again from
its beginning, with one more state known.

* `Clock σ` — states with a clock.
* `Company S` — whether others are at work while a step sleeps.
* `Timed S` — a state with a clock beside it.
-/

namespace Conveyor

/-- Delays in milliseconds. -/
abbrev Millis := Nat

/-- The longest sleep: thirty years of 365 days.  A sleep that is to take longer ends then. -/
def longestSleep : Millis := 946080000000

/-- The time that a sleep takes. -/
def sleepTime (delay : Millis) : Millis := min delay longestSleep

/-- States in which time can pass. -/
class Clock (σ : Type) where
  now : σ → Timestamp
  /-- The state after a sleep. -/
  sleep : Millis → σ → σ

/-- Whether others are at work while a step sleeps. -/
inductive Company (S : Type) where
  | alone
  /-- Others are, and the coming sleeps end in these states. -/
  | others (awakenings : List S)
  /-- Others are, and the step sleeps until a moment; this is the state in which it fell asleep. -/
  | paused (wake : Millis) (left : S)

/-- A state with a clock beside it. -/
structure Timed (S : Type) where
  inner : S
  /-- The time of day at which the clock was set going. -/
  now : Timestamp
  elapsed : Millis
  company : Company S

namespace Timed

variable {S : Type}

def start (now : Timestamp) (inner : S) : Timed S := ⟨inner, now, 0, .alone⟩

def innerPart : Part (Timed S) S := ⟨Timed.inner, fun s t => { t with inner := s }⟩

def setClock (moment : Millis) (t : Timed S) : Timed S := { t with elapsed := moment }

def among (company : Company S) (t : Timed S) : Timed S := { t with company := company }

/-- The state after a sleep; a sleep that takes no time changes nothing. -/
def sleep (delay : Millis) (t : Timed S) : Timed S :=
  if sleepTime delay = 0 then t
  else
    let wake := t.elapsed + sleepTime delay
    match t.company with
    | .alone => t.setClock wake
    | .others (s :: later) => { t with inner := s, elapsed := wake, company := .others later }
    | .others [] => { t with elapsed := wake, company := .paused wake t.inner }
    | .paused .. => t.setClock wake

instance : Clock (Timed S) where
  now := Timed.now
  sleep := sleep

/-- Alone, a sleep takes its time and changes nothing else. -/
theorem sleep_of_alone {t : Timed S} (h : t.company = .alone) (delay : Millis) :
    t.sleep delay = t.setClock (t.elapsed + sleepTime delay) := by
  unfold sleep
  split
  · rename_i h0
    simp [h0, setClock]
  · simp [h]

end Timed

end Conveyor
