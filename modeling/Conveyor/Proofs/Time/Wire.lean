import Conveyor.Time.Rfc3339
import Mathlib.Algebra.Group.Nat.Defs

/-!
# Timestamps from their texts

The text of a timestamp gives every field its full width, so whoever reads a timestamp leniently
finds all the fields that were written: a field ends where its digits do, and what follows it is
never a digit.

* `Text.length_padded`, `Text.valueOfDigits_padded`, `Text.isDigit_of_mem_padded` — digits on a
  fixed number of places.
* `Rfc3339.number_padded`, `Rfc3339.lenientField_padded` — a number that fills its places is read
  back.
* `Rfc3339.lenientYear_yearText`, `Rfc3339.fraction_fractionText` — so are years of any sign and
  fractions of any width.
* `Timestamp.ofLocal?_zero` — a local time without offset is the timestamp itself.
* **`Rfc3339.readLenient_wire`** — a timestamp is read back from its text.
-/

namespace Conveyor

namespace Text

theorem isDigit_of_mem_padded {width n : Nat} {c : Char} (h : c ∈ padded width n) :
    c.isDigit = true := by
  rcases List.mem_append.1 h with zero | digit
  · rw [List.eq_of_mem_replicate zero]
    rfl
  · exact isDigit_of_mem_digitsOf digit

theorem length_padded {width n : Nat} (some_place : 0 < width) (fits : n < 10 ^ width) :
    (padded width n).length = width := by
  have digits : (digitsOf n).length ≤ width :=
    (Nat.length_toDigits_le_iff (by decide) some_place).2 fits
  rw [padded, List.length_append, List.length_replicate]
  omega

theorem valueOfDigits_padded (width n : Nat) : valueOfDigits (padded width n) = n := by
  rw [valueOfDigits, padded, Nat.ofDigitChars_append, Nat.ofDigitChars_replicate_zero, Nat.mul_zero]
  exact Nat.ofDigitChars_ten_toDigits

/-- What starts with a digit has no blanks to trim. -/
theorem trimStart_of_visible {c : Char} (visible : isBlank c = false) (cs : List Char) :
    trimStart (c :: cs) = c :: cs := by
  rw [trimStart, List.dropWhile_cons, visible]
  rfl

theorem isBlank_of_isDigit {c : Char} (h : c.isDigit = true) : isBlank c = false := by
  have bounds : 48 ≤ c.toNat ∧ c.toNat ≤ 57 := by
    simpa [Char.isDigit, UInt32.le_iff_toNat_le] using h
  simp only [isBlank, Bool.or_eq_false_iff, Bool.and_eq_false_iff, decide_eq_false_iff_not,
    beq_eq_false_iff_ne]
  omega

end Text

namespace Rfc3339

open Text (padded valueOfDigits)

/-- What follows a number does not start with another digit. -/
def Stops (rest : List Char) : Prop := ∀ c ∈ rest.head?, c.isDigit = false

theorem stops_cons {c : Char} (rest : List Char) (h : c.isDigit = false) : Stops (c :: rest) := by
  simpa [Stops] using h

theorem takeWhile_digits {ds rest : List Char} (digits : ∀ c ∈ ds, c.isDigit = true)
    (stops : Stops rest) {most : Nat} (room : ds.length ≤ most) :
    ((ds ++ rest).take most).takeWhile Char.isDigit = ds := by
  rw [List.take_append, List.take_of_length_le room, List.takeWhile_append_of_pos digits]
  have none_more : (rest.take (most - ds.length)).takeWhile Char.isDigit = [] := by
    cases rest with
    | nil => simp
    | cons c rest =>
      have stop : c.isDigit = false := stops c rfl
      cases most - ds.length <;> simp [stop]
  rw [none_more, List.append_nil]

/-- **A run of digits is read back** as the number that it says, if it has the number of digits
that is asked for. -/
theorem number_digits {ds rest : List Char} (digits : ∀ c ∈ ds, c.isDigit = true)
    (stops : Stops rest) {least most : Nat} (enough : least ≤ ds.length)
    (room : ds.length ≤ most) (fits : (valueOfDigits ds : Int) ≤ Text.maxSigned) :
    number least most (ds ++ rest) = .ok (valueOfDigits ds, rest) := by
  have bytes : least ≤ Text.byteLength (ds ++ rest) := by
    refine Nat.le_trans enough (Nat.le_trans ?_ (Text.length_le_byteLength _))
    simp
  rw [number, takeWhile_digits digits stops room]
  simp only [Nat.not_lt.2 bytes, Int.not_lt.2 fits, Nat.not_lt.2 enough, if_false,
    List.drop_left]

theorem number_padded {width n least most : Nat} {rest : List Char} (some_place : 0 < width)
    (within : n < 10 ^ width) (stops : Stops rest) (enough : least ≤ width) (room : width ≤ most)
    (fits : (n : Int) ≤ Text.maxSigned) :
    number least most (padded width n ++ rest) = .ok (n, rest) := by
  have length := Text.length_padded some_place within
  have value := Text.valueOfDigits_padded width n
  have read := number_digits (fun c => Text.isDigit_of_mem_padded) stops (length ▸ enough)
    (length ▸ room) (value.symm ▸ fits)
  rwa [value] at read

theorem padded_eq_cons {width : Nat} (some_place : 0 < width) (n : Nat) :
    ∃ d ds, padded width n = d :: ds ∧ d.isDigit = true := by
  cases digits : padded width n with
  | nil =>
    have none_left := congrArg List.length digits
    rw [padded, List.length_append, List.length_replicate, List.length_nil] at none_left
    omega
  | cons d ds =>
    have mem : d ∈ padded width n := by simp [digits]
    exact ⟨d, ds, rfl, Text.isDigit_of_mem_padded mem⟩

/-- Digits are not trimmed. -/
theorem trimStart_padded {width : Nat} (some_place : 0 < width) (n : Nat) (rest : List Char) :
    Text.trimStart (padded width n ++ rest) = padded width n ++ rest := by
  obtain ⟨d, ds, digits, digit⟩ := padded_eq_cons some_place n
  rw [digits]
  exact Text.trimStart_of_visible (Text.isBlank_of_isDigit digit) _

/-- **A field of two digits is read back.** -/
theorem lenientField_padded {lo hi n : Nat} {rest : List Char} (least : lo ≤ n) (most : n ≤ hi)
    (two : hi < 100) (stops : Stops rest) :
    lenientField lo hi (padded 2 n ++ rest) = .ok (n, rest) := by
  have fits : (n : Int) ≤ Text.maxSigned := by
    simp only [Text.maxSigned]
    omega
  rw [lenientField, trimStart_padded (by decide), field,
    number_padded (by decide) (by omega) stops (by decide) (by decide) fits]
  have within : (lo : Int) ≤ n ∧ (n : Int) ≤ hi := by omega
  simp [bind, Except.bind, pure, Except.pure, within]

/-- A separator is found where it was written. -/
theorem lenientExpect_self {c : Char} (visible : Text.isBlank c = false) (rest : List Char) :
    lenientExpect c (c :: rest) = .ok rest := by
  rw [lenientExpect, Text.trimStart_of_visible visible, expect, if_pos rfl]

/-- Behind a sign there may be any number of digits. -/
theorem number_behind_sign {n : Nat} {rest : List Char} (fits : (n : Int) ≤ Text.maxSigned)
    (stops : Stops rest) :
    number 1 (padded 4 n ++ rest).length (padded 4 n ++ rest) = .ok (n, rest) := by
  obtain ⟨d, ds, digits, -⟩ := padded_eq_cons (show 0 < 4 by decide) n
  have some_digit : 1 ≤ (padded 4 n).length := by simp [digits]
  have all : (padded 4 n).length ≤ (padded 4 n ++ rest).length := by simp
  have value := Text.valueOfDigits_padded 4 n
  have read := number_digits (fun c => Text.isDigit_of_mem_padded) stops some_digit all
    (value.symm ▸ fits)
  rwa [value] at read

/-- **A year is read back**, with a sign or without. -/
theorem lenientYear_yearText {year : Int} (least : minYear ≤ year) (most : year ≤ maxYear)
    {rest : List Char} (stops : Stops rest) :
    lenientYear (Text.trimStart (Timestamp.yearText year ++ rest)) = .ok (year, rest) := by
  simp only [minYear, maxYear] at least most
  have bounds : -2147483648 ≤ year ∧ year ≤ 2147483647 := by omega
  have fits : ∀ n : Nat, (n : Int) = year ∨ (n : Int) = -year → (n : Int) ≤ Text.maxSigned := by
    intro n same
    simp only [Text.maxSigned]
    omega
  rw [Timestamp.yearText]
  split
  · rename_i short
    have same : (year.toNat : Int) = year := Int.toNat_of_nonneg short.1
    have read : number 1 4 (padded 4 year.toNat ++ rest) = .ok (year.toNat, rest) :=
      number_padded (by decide) (by omega) stops (by decide) (by decide) (fits _ (.inl same))
    obtain ⟨d, ds, digits, digit⟩ := padded_eq_cons (show 0 < 4 by decide) year.toNat
    rw [digits, List.cons_append] at read
    rw [trimStart_padded (by decide), digits, List.cons_append, lenientYear]
    · simp [read, same, bounds, bind, Except.bind, pure, Except.pure]
    -- a digit is no sign
    all_goals
      intro ds' sign
      obtain ⟨rfl, -⟩ := List.cons.inj sign
      cases digit
  · have same : (year.natAbs : Int) = year ∨ (year.natAbs : Int) = -year := by omega
    have read := number_behind_sign (fits _ same) stops
    by_cases negative : year < 0
    · have value : -(year.natAbs : Int) = year := by omega
      rw [if_pos negative, List.cons_append, Text.trimStart_of_visible rfl, lenientYear]
      simp only [read, Except.map, bind, Except.bind, value, pure, Except.pure]
      rw [if_pos bounds]
    · have value : (year.natAbs : Int) = year := by omega
      rw [if_neg negative, List.cons_append, Text.trimStart_of_visible rfl, lenientYear]
      simp only [read, bind, Except.bind, value, pure, Except.pure]
      rw [if_pos bounds]

/-- A fraction written on so many places. -/
theorem fraction_padded {width n : Nat} (some_place : 0 < width) (nine : width ≤ 9)
    (within : n < 10 ^ width) {rest : List Char} (stops : Stops rest) :
    fraction ('.' :: (padded width n ++ rest)) = .ok (n * Text.powerOfTen (9 - width), rest) := by
  have fits : (n : Int) ≤ Text.maxSigned := by
    have : n < 10 ^ 9 := Nat.lt_of_lt_of_le within (Nat.pow_le_pow_right (by decide) nine)
    simp only [Text.maxSigned]
    omega
  have read : number 1 9 (padded width n ++ rest) = .ok (n, rest) :=
    number_padded some_place within stops some_place nine fits
  have places : (padded width n ++ rest).length - rest.length = width := by
    rw [List.length_append, Text.length_padded some_place within]
    omega
  have stopped : rest.dropWhile Char.isDigit = rest := by
    cases rest with
    | nil => rfl
    | cons c rest => simp [stops c rfl]
  simp only [fraction, read, bind, Except.bind, places, stopped, pure, Except.pure,
    Int.toNat_natCast]

/-- What is written behind the seconds does not start with another digit. -/
theorem stops_fractionText {c : Char} (digit : c.isDigit = false) (nano : Nat)
    (rest : List Char) : Stops (Timestamp.fractionText nano ++ c :: rest) := by
  rw [Timestamp.fractionText]
  split
  · exact stops_cons rest digit
  · split <;> try split
    all_goals exact stops_cons _ rfl

/-- **A fraction is read back**, on however many places it was written. -/
theorem fraction_fractionText {nano : Nat} (within : nano < 1000000000) {c : Char}
    (point : c ≠ '.') (digit : c.isDigit = false) (rest : List Char) :
    fraction (Timestamp.fractionText nano ++ c :: rest) = .ok (nano, c :: rest) := by
  have stops : Stops (c :: rest) := stops_cons rest digit
  rw [Timestamp.fractionText]
  split
  · rename_i whole
    rw [whole]
    show fraction (c :: rest) = .ok (0, c :: rest)
    rw [fraction]
    intro cs same
    exact point (List.cons.inj same).1
  · split
    · rename_i millis
      have same : nano / 1000000 * Text.powerOfTen (9 - 3) = nano := by
        show nano / 1000000 * 1000000 = nano
        omega
      rw [List.cons_append, fraction_padded (by decide) (by decide) (by omega) stops, same]
    · split
      · rename_i micros
        have same : nano / 1000 * Text.powerOfTen (9 - 6) = nano := by
          show nano / 1000 * 1000 = nano
          omega
        rw [List.cons_append, fraction_padded (by decide) (by decide) (by omega) stops, same]
      · have same : nano * Text.powerOfTen (9 - 9) = nano := Nat.mul_one nano
        rw [List.cons_append, fraction_padded (by decide) (by decide) (by omega) stops, same]

end Rfc3339

/-- Without an offset a local time is the point in time that it names. -/
theorem Timestamp.ofLocal?_zero (t : Timestamp) :
    ofLocal? t.date t.hour t.minute t.second t.nano 0 = some t := by
  obtain ⟨date, hour, minute, second, nano, isTime⟩ := t
  have early : ¬ ((hour : Int) * 60 + minute - 0 < 0) := by omega
  have late : ¬ (1440 ≤ (hour : Int) * 60 + minute - 0) := by
    obtain ⟨hours, minutes, -⟩ := isTime
    omega
  have hours : ((hour : Int) * 60 + minute - 0).toNat / 60 = hour := by
    obtain ⟨-, minutes, -⟩ := isTime
    omega
  have minutes : ((hour : Int) * 60 + minute - 0).toNat % 60 = minute := by
    obtain ⟨-, minutes, -⟩ := isTime
    omega
  simp only [ofLocal?, if_neg early, if_neg late, hours, minutes, ofParts?, dif_pos isTime]

/-- **A timestamp is read back from its text.** -/
theorem Rfc3339.readLenient_wire (t : Timestamp) : readLenient t.wire = .ok t := by
  obtain ⟨least, most, month, months, day, days⟩ := t.date.isDate
  obtain ⟨hour, minute, second, nano⟩ := t.isTime
  have days' : t.date.day ≤ 31 := by
    refine Nat.le_trans days ?_
    rw [daysInMonth.eq_def]
    split <;> try split
    all_goals decide
  have text : t.wire.toList = Timestamp.yearText t.date.year ++ ('-' :: (Text.padded 2 t.date.month
      ++ ('-' :: (Text.padded 2 t.date.day ++ ('T' :: (Text.padded 2 t.hour ++ (':' ::
      (Text.padded 2 t.minute ++ (':' :: (Text.padded 2 t.second ++
      (Timestamp.fractionText t.nano ++ ['Z']))))))))))) := by
    simp [Timestamp.wire, Timestamp.clockText]
  have behind := stops_fractionText (c := 'Z') rfl t.nano []
  have zone : lenientOffset (Text.trimStart ['Z']) = .ok (0, []) := rfl
  have minus : ∀ rest, Stops ('-' :: rest) := fun rest => stops_cons rest rfl
  have time : ∀ rest, Stops ('T' :: rest) := fun rest => stops_cons rest rfl
  have colon : ∀ rest, Stops (':' :: rest) := fun rest => stops_cons rest rfl
  rw [readLenient, text]
  simp only [lenientYear_yearText least most (minus _), bind, Except.bind,
    lenientExpect_self (c := '-') rfl, lenientExpect_self (c := ':') rfl,
    lenientField_padded month months (by decide) (minus _),
    lenientField_padded day days' (by decide) (time _),
    lenientField_padded (Nat.zero_le _) (Nat.le_of_lt_succ hour) (by decide) (colon _),
    lenientField_padded (Nat.zero_le _) (Nat.le_of_lt_succ minute) (by decide) (colon _),
    lenientField_padded (Nat.zero_le _) second (by decide) behind,
    fraction_fractionText nano (c := 'Z') (by decide) rfl, zone, expectTime, true_or, if_true]
  simp [assemble, Timestamp.ofLocal?_zero, Text.trimStart, pure, Except.pure]

end Conveyor
