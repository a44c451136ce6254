import Conveyor.Proofs.Time.Wire

/-!
# Timestamps from their columns

A column of a table is read strictly: every field has its full width, and the year four digits.  So
a timestamp of a year from 0 to 9999 is read back from the column that was written for it.

* `Timestamp.HasShortYear` — the years from 0 to 9999.
* `Rfc3339.digits_padded` — a number that fills its places is read back.
* **`Rfc3339.readStrict_column`** — a timestamp of such a year is read back from its column.
-/

namespace Conveyor

/-- The year of a timestamp is written with four digits and no sign. -/
def Timestamp.HasShortYear (t : Timestamp) : Prop := 0 ≤ t.date.year ∧ t.date.year ≤ 9999

instance (t : Timestamp) : Decidable t.HasShortYear := inferInstanceAs (Decidable (_ ∧ _))

namespace Rfc3339

open Text (padded)

/-- A number that fills its places is read back. -/
theorem digits_padded {width n : Nat} (some_place : 0 < width) (within : n < 10 ^ width)
    (rest : List Char) : digits width (padded width n ++ rest) = .ok (n, rest) := by
  have length := Text.length_padded some_place within
  have read : ((padded width n ++ rest).take width).takeWhile Char.isDigit = padded width n := by
    rw [List.take_left' length, ← List.append_nil (padded width n),
      List.takeWhile_append_of_pos fun c mem => Text.isDigit_of_mem_padded mem]
    rfl
  rw [digits, read, Text.valueOfDigits_padded]
  simp only [length, if_true, List.drop_left' length]

theorem expect_self (c : Char) (rest : List Char) : expect c (c :: rest) = .ok rest := by
  rw [expect, if_pos rfl]

/-- **A timestamp of a short year is read back from its column.** -/
theorem readStrict_column {t : Timestamp} (short : t.HasShortYear) :
    readStrict t.column = .ok t := by
  obtain ⟨least, most⟩ := short
  obtain ⟨-, -, -, months, -, days⟩ := t.date.isDate
  obtain ⟨hours, minutes, seconds, nanos⟩ := t.isTime
  have same : (t.date.year.toNat : Int) = t.date.year := Int.toNat_of_nonneg least
  have year : t.date.year.toNat < 10 ^ 4 := by omega
  have month : t.date.month < 10 ^ 2 := by omega
  have day : t.date.day < 10 ^ 2 := by
    refine Nat.lt_of_le_of_lt days ?_
    rw [daysInMonth.eq_def]
    split <;> try split
    all_goals decide
  have hour : t.hour < 10 ^ 2 := by omega
  have minute : t.minute < 10 ^ 2 := by omega
  have second : t.second < 10 ^ 2 := by omega
  have text : t.column.toList = padded 4 t.date.year.toNat ++ ('-' :: (padded 2 t.date.month
      ++ ('-' :: (padded 2 t.date.day ++ ('T' :: (padded 2 t.hour ++ (':' ::
      (padded 2 t.minute ++ (':' :: (padded 2 t.second ++
      (Timestamp.fractionText t.nano ++ '+' :: "00:00".toList))))))))))) := by
    have zone : "+00:00".toList = '+' :: "00:00".toList := rfl
    simp [Timestamp.column, Timestamp.clockText, Timestamp.yearText, least, most, zone]
  have long : ¬ Text.byteLength t.column.toList < fixedLength := by
    have bytes := Text.length_le_byteLength t.column.toList
    have chars := congrArg List.length text
    simp only [List.length_append, List.length_cons, Text.length_padded (by decide) year,
      Text.length_padded (by decide) month, Text.length_padded (by decide) day,
      Text.length_padded (by decide) hour, Text.length_padded (by decide) minute,
      Text.length_padded (by decide) second] at chars
    simp only [fixedLength]
    omega
  have zone : offset (expect ':') ('+' :: "00:00".toList) = .ok (0, []) := rfl
  rw [readStrict]
  simp only [long, if_false]
  rw [text]
  simp only [bind, Except.bind, pure, Except.pure, digits_padded (by decide) year,
    digits_padded (by decide) month, digits_padded (by decide) day,
    digits_padded (by decide) hour, digits_padded (by decide) minute,
    digits_padded (by decide) second, expect_self, same, Date.ofYmd?_self, expectTime, true_or,
    if_true, fraction_fractionText nanos (c := '+') (by decide) rfl, zone]
  simp [Timestamp.ofLocal?_zero, hours, minutes, seconds, nanos]

end Rfc3339

end Conveyor
