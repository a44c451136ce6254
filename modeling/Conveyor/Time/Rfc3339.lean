import Conveyor.Text.Blank
import Conveyor.Text.Bytes
import Conveyor.Time.Timestamp

/-!
# Reading timestamps

Two readers of timestamps.  Both want a date, a time and an offset from UTC; they differ in how
much freedom they leave.

* `Rfc3339.readStrict` — the text form of RFC 3339 exactly: two digits for every field, four for
  the year, and an offset of less than a day.
* `Rfc3339.readLenient` — what documents may hold: fields of one digit, signed years, blanks
  around the separators, an offset without colon, and `UTC` for a zero offset.
* `Rfc3339.ReadError` — why a text is no timestamp, in the order in which reading finds out.

Lengths are counted in UTF-8 bytes: a text that is long enough in bytes but holds other characters
than digits is malformed, not too short.
-/

namespace Conveyor.Rfc3339

/-- Why a text is no timestamp. -/
inductive ReadError where
  | tooShort
  | malformed
  | outOfRange
  | trailing
  /-- The point in time is outside the range of timestamps once the offset is taken off. -/
  | impossible
deriving DecidableEq, Repr

def ReadError.message : ReadError → String
  | tooShort => "premature end of input"
  | malformed => "input contains invalid characters"
  | outOfRange => "input is out of range"
  | trailing => "trailing input"
  | impossible => "no possible date and time matching input"

/-! ## Fields

A step of reading answers what was read and what is left of the text.
-/

/-- A number of at least `least` and at most `most` digits, within 64 bits. -/
def number (least most : Nat) (cs : List Char) : Except ReadError (Int × List Char) :=
  let ds := (cs.take most).takeWhile Char.isDigit
  if Text.byteLength cs < least then .error .tooShort
  else if Text.maxSigned < Text.valueOfDigits ds then .error .outOfRange
  else if ds.length < least then .error .malformed
  else .ok (Text.valueOfDigits ds, cs.drop ds.length)

/-- A number of so many digits within bounds. -/
def field (least most : Nat) (lo hi : Nat) (cs : List Char) :
    Except ReadError (Nat × List Char) := do
  let (n, rest) ← number least most cs
  if lo ≤ n ∧ n ≤ hi then pure (n.toNat, rest) else throw .outOfRange

def expect (c : Char) : List Char → Except ReadError (List Char)
  | [] => .error .tooShort
  | d :: rest => if d = c then .ok rest else .error .malformed

/-- The separator of date and time: `T`, `t` or a space. -/
def expectTime : List Char → Except ReadError (List Char)
  | [] => .error .tooShort
  | c :: rest => if c = 'T' ∨ c = 't' ∨ c = ' ' then .ok rest else .error .malformed

/-- A fraction of a second in nanoseconds, if there is one; digits past the ninth are passed over. -/
def fraction : List Char → Except ReadError (Nat × List Char)
  | '.' :: cs => do
      let (n, rest) ← number 1 9 cs
      let digits := cs.length - rest.length
      pure (n.toNat * Text.powerOfTen (9 - digits), rest.dropWhile Char.isDigit)
  | cs => .ok (0, cs)

/-- Two digits of an offset. -/
def offsetDigits (cs : List Char) : Except ReadError ((Nat × Nat) × List Char) :=
  if Text.byteLength cs < 2 then .error .tooShort
  else match cs with
    | d₁ :: d₂ :: rest =>
        if d₁.isDigit ∧ d₂.isDigit then
          .ok ((d₁.toNat - '0'.toNat, d₂.toNat - '0'.toNat), rest)
        else .error .malformed
    | _ => .error .malformed

/-- An offset from UTC in minutes: `Z`, or a sign (also the minus sign of typography), hours, what
`separator` accepts, and minutes. -/
def offset (separator : List Char → Except ReadError (List Char)) (cs : List Char) :
    Except ReadError (Int × List Char) := do
  let afterSign (cs : List Char) : Except ReadError (Nat × List Char) := do
    let ((h₁, h₂), cs) ← offsetDigits cs
    let cs ← separator cs
    let ((m₁, m₂), cs) ← offsetDigits cs
    if 6 ≤ m₁ then throw .outOfRange
    pure ((h₁ * 10 + h₂) * 60 + (m₁ * 10 + m₂), cs)
  match cs with
  | [] => throw .tooShort
  | c :: rest =>
      if c = 'Z' ∨ c = 'z' then pure (0, rest)
      else if c = '+' then
        let (n, rest) ← afterSign rest
        pure ((n : Int), rest)
      else if c = '-' ∨ c = '\u2212' then
        let (n, rest) ← afterSign rest
        pure (-(n : Int), rest)
      else throw .malformed

/-- The timestamp of the fields that were read: the fields have to name a day, and the offset has
to be shorter than one. -/
def assemble (year : Int) (month day hour minute second nano : Nat) (offset : Int) :
    Except ReadError Timestamp := do
  let some date := Date.ofYmd? year month day | throw .outOfRange
  if 1440 ≤ offset.natAbs then throw .outOfRange
  match Timestamp.ofLocal? date hour minute second nano offset with
  | some t => pure t
  | none => throw .impossible

/-! ## The strict form -/

/-- So many digits. -/
def digits (count : Nat) (cs : List Char) : Except ReadError (Nat × List Char) :=
  let ds := (cs.take count).takeWhile Char.isDigit
  if ds.length = count then .ok (Text.valueOfDigits ds, cs.drop count) else .error .malformed

/-- The number of bytes of a date and a time without fraction and offset. -/
def fixedLength : Nat := 19

/-- Reads the text form of RFC 3339, fields of fixed width.  The day is looked at as soon as it is
read, the time of day once its fraction is read, and the offset at the very end. -/
def readStrict (text : String) : Except ReadError Timestamp := do
  let cs := text.toList
  if Text.byteLength cs < fixedLength then throw .tooShort
  let (year, cs) ← digits 4 cs
  let cs ← expect '-' cs
  let (month, cs) ← digits 2 cs
  let cs ← expect '-' cs
  let (day, cs) ← digits 2 cs
  let some date := Date.ofYmd? year month day | throw .outOfRange
  let cs ← expectTime cs
  let (hour, cs) ← digits 2 cs
  let cs ← expect ':' cs
  let (minute, cs) ← digits 2 cs
  let cs ← expect ':' cs
  let (second, cs) ← digits 2 cs
  let (nano, cs) ← fraction cs
  if ¬ IsTimeOfDay hour minute second nano then throw .outOfRange
  let (offset, cs) ← offset (expect ':') cs
  if !cs.isEmpty then throw .trailing
  if 1440 ≤ offset.natAbs then throw .outOfRange
  match Timestamp.ofLocal? date hour minute second nano offset with
  | some t => pure t
  | none => throw .outOfRange

/-! ## The lenient form -/

/-- A year: up to four digits, or a sign and any number of them; no year needs more than 32 bits. -/
def lenientYear (cs : List Char) : Except ReadError (Int × List Char) := do
  let (year, rest) ← match cs with
    | '-' :: ds => (number 1 ds.length ds).map fun (n, rest) => (-n, rest)
    | '+' :: ds => number 1 ds.length ds
    | ds => number 1 4 ds
  if -2147483648 ≤ year ∧ year ≤ 2147483647 then pure (year, rest) else throw .outOfRange

/-- A field of one or two digits, after blanks. -/
def lenientField (lo hi : Nat) (cs : List Char) : Except ReadError (Nat × List Char) :=
  field 1 2 lo hi (Text.trimStart cs)

/-- The character `c`, after blanks. -/
def lenientExpect (c : Char) (cs : List Char) : Except ReadError (List Char) :=
  expect c (Text.trimStart cs)

/-- The offset of the lenient form: `UTC` in any case, or an offset whose hours and minutes may be
separated by colons and blanks, or by nothing. -/
def lenientOffset (cs : List Char) : Except ReadError (Int × List Char) :=
  match cs with
  | a :: b :: c :: rest =>
      if a.toUpper = 'U' ∧ b.toUpper = 'T' ∧ c.toUpper = 'C' then .ok (0, rest)
      else offset separator cs
  | _ => offset separator cs
where
  separator (cs : List Char) : Except ReadError (List Char) :=
    .ok (cs.dropWhile fun c => c == ':' || Text.isBlank c)

/-- Reads a timestamp as documents may hold it. -/
def readLenient (text : String) : Except ReadError Timestamp := do
  let (year, cs) ← lenientYear (Text.trimStart text.toList)
  let cs ← lenientExpect '-' cs
  let (month, cs) ← lenientField 1 12 cs
  let cs ← lenientExpect '-' cs
  let (day, cs) ← lenientField 1 31 cs
  let cs ← expectTime cs
  let (hour, cs) ← lenientField 0 23 cs
  let cs ← lenientExpect ':' cs
  let (minute, cs) ← lenientField 0 59 cs
  let cs ← lenientExpect ':' cs
  let (second, cs) ← lenientField 0 60 cs
  let (nano, cs) ← fraction cs
  let (offset, cs) ← lenientOffset (Text.trimStart cs)
  if !(Text.trimStart cs).isEmpty then throw .trailing
  assemble year month day hour minute second nano offset

end Conveyor.Rfc3339
