import Conveyor.Time.Date
import Conveyor.Text.Decimal

/-!
# Timestamps

A point in time in Coordinated Universal Time, to the nanosecond: a day, and hour, minute, second
and nanosecond on it.  The second may be 60, the leap second at the end of a minute.

* `Timestamp` — the type.
* `Timestamp.ofLocal?` — the timestamp of a local time at an offset from UTC.
* `Timestamp.wire`, `Timestamp.column` — its text with the zone written as `Z`, or as `+00:00`.
-/

namespace Conveyor

/-- Whether four numbers name a time of day. -/
abbrev IsTimeOfDay (hour minute second nano : Nat) : Prop :=
  hour < 24 ∧ minute < 60 ∧ second ≤ 60 ∧ nano < 1000000000

/-- A point in time, in UTC. -/
structure Timestamp where
  date : Date
  hour : Nat
  minute : Nat
  second : Nat
  nano : Nat
  isTime : IsTimeOfDay hour minute second nano
deriving DecidableEq, Repr

namespace Timestamp

/-- The timestamp of a day and a time of day, if the numbers name one. -/
def ofParts? (date : Date) (hour minute second nano : Nat) : Option Timestamp :=
  if h : IsTimeOfDay hour minute second nano then some ⟨date, hour, minute, second, nano, h⟩
  else none

/-- The timestamp of a local time that is `offset` minutes ahead of UTC.  An offset is shorter
than a day, so the day moves by at most one. -/
def ofLocal? (date : Date) (hour minute second nano : Nat) (offset : Int) : Option Timestamp :=
  let minutes : Int := hour * 60 + minute - offset
  let at? (date : Date) (minutes : Int) : Option Timestamp :=
    ofParts? date (minutes.toNat / 60) (minutes.toNat % 60) second nano
  if minutes < 0 then date.previous?.bind fun d => at? d (minutes + 1440)
  else if 1440 ≤ minutes then date.next?.bind fun d => at? d (minutes - 1440)
  else at? date minutes

/-! ## Text -/

/-- A year: four digits from 0 to 9999, and a sign with at least four digits elsewhere. -/
def yearText (year : Int) : List Char :=
  if 0 ≤ year ∧ year ≤ 9999 then Text.padded 4 year.toNat
  else (if year < 0 then '-' else '+') :: Text.padded 4 year.natAbs

/-- The fraction of a second on the fewest of 0, 3, 6 and 9 digits that are exact. -/
def fractionText (nano : Nat) : List Char :=
  if nano = 0 then []
  else if nano % 1000000 = 0 then '.' :: Text.padded 3 (nano / 1000000)
  else if nano % 1000 = 0 then '.' :: Text.padded 6 (nano / 1000)
  else '.' :: Text.padded 9 nano

/-- Date and time up to the zone. -/
def clockText (t : Timestamp) : List Char :=
  yearText t.date.year ++ '-' :: Text.padded 2 t.date.month ++ '-' :: Text.padded 2 t.date.day ++
    'T' :: Text.padded 2 t.hour ++ ':' :: Text.padded 2 t.minute ++ ':' :: Text.padded 2 t.second ++
    fractionText t.nano

def wire (t : Timestamp) : String := String.ofList (t.clockText ++ ['Z'])

def column (t : Timestamp) : String := String.ofList (t.clockText ++ "+00:00".toList)

end Timestamp

end Conveyor
