import Conveyor.Json.Printer
import Conveyor.Json.Reader
import Mathlib.Data.List.Basic

/-!
# What is written is read

A document that was made up from values, and not met in a text, has no faults: its texts, numbers,
arrays and objects are complete.  Its text is read back as the same document, whatever follows it,
so the grammar leaves no choice on such texts.

* `Doc.Written` — documents without faults, as writers make them.
* `readQuoted_print`, `readNumber_print` — texts between quotes and numbers are read back.
* **`Doc.readValue_print`** — so are documents, with `Items.readItems_print` and
  `Members.readMembers_print` for what is within a frame.
* **`Document.ofText_render`** — a whole text.
* `QuotedText.value_ofText`, `NumberText.value_ofInt` — what is read says what was written.
-/

namespace Conveyor.Json

/-! ## Texts between quotes -/

theorem hexDigit?_digitChar {n : Nat} (h : n < 16) : hexDigit? (Nat.digitChar n) = some n := by
  have all : ∀ n < 16, hexDigit? (Nat.digitChar n) = some n := by decide
  exact all n h

/-- Control characters are read back from their numbers. -/
theorem readQuoted_unit {n : Nat} (h : n < 0x20) (rest : List Char) :
    readQuoted ((Piece.unit n).print ++ rest) = QuotedText.push (.unit n) (readQuoted rest) := by
  have digits : hexUnit? (Nat.digitChar (n / 4096 % 16)) (Nat.digitChar (n / 256 % 16))
      (Nat.digitChar (n / 16 % 16)) (Nat.digitChar (n % 16)) = some n := by
    have lt : ∀ k, k % 16 < 16 := fun k => Nat.mod_lt k (by decide)
    simp only [hexUnit?, hexDigit?_digitChar (lt _)]
    show some _ = some n
    congr 1
    omega
  simp only [Piece.print, unitDigits, List.cons_append, List.nil_append]
  rw [readQuoted, digits]

/-- The characters that are written by a mark of their own behind a backslash. -/
def shortEscaped : List Char := ['"', '\\', '\x08', '\t', '\n', '\x0c', '\r']

theorem readQuoted_of_plain {c : Char} (quote : c ≠ '"') (backslash : c ≠ '\\')
    (visible : ¬ c.toNat < 0x20) (rest : List Char) :
    readQuoted (c :: rest) = QuotedText.push (.char c) (readQuoted rest) := by
  rw [readQuoted]
  · rw [if_neg visible]
  all_goals simp_all

theorem print_of_not_shortEscaped {c : Char} (h : c ∉ shortEscaped) :
    (Piece.char c).print = [c] := by
  rw [Piece.print.eq_def]
  simp only [shortEscaped, List.mem_cons, List.not_mem_nil, or_false, not_or] at h
  split <;> simp_all

/-- All other characters are read back from themselves, or from their marks. -/
theorem readQuoted_char {c : Char}
    (h : ¬ (c.toNat < 0x20 ∧ c ∉ ['\x08', '\t', '\n', '\x0c', '\r'])) (rest : List Char) :
    readQuoted ((Piece.char c).print ++ rest) = QuotedText.push (.char c) (readQuoted rest) := by
  by_cases short : c ∈ shortEscaped
  · simp only [shortEscaped, List.mem_cons, List.not_mem_nil, or_false] at short
    rcases short with rfl | rfl | rfl | rfl | rfl | rfl | rfl <;> rfl
  · rw [print_of_not_shortEscaped short]
    simp only [shortEscaped, List.mem_cons, List.not_mem_nil, or_false, not_or] at short
    refine readQuoted_of_plain short.1 short.2.1 (fun control => h ⟨control, ?_⟩) rest
    simpa using short.2.2

theorem readQuoted_pieceOf (c : Char) (rest : List Char) :
    readQuoted ((QuotedText.pieceOf c).print ++ rest)
      = QuotedText.push (QuotedText.pieceOf c) (readQuoted rest) := by
  rw [QuotedText.pieceOf]
  split
  · rename_i unit
    exact readQuoted_unit unit.1 rest
  · rename_i char
    exact readQuoted_char char rest

/-- **A text between quotes** is read back up to its closing quote. -/
theorem readQuoted_print (s : String) (rest : List Char) :
    readQuoted ((QuotedText.ofText s).pieces.flatMap Piece.print ++ '"' :: rest)
      = (.ofText s, rest) := by
  have pieces : ∀ cs : List Char,
      readQuoted ((cs.map QuotedText.pieceOf).flatMap Piece.print ++ '"' :: rest)
        = (⟨cs.map QuotedText.pieceOf, none⟩, rest) := by
    intro cs
    induction cs with
    | nil => rfl
    | cons c cs ih =>
      rw [List.map_cons, List.flatMap_cons, List.append_assoc, readQuoted_pieceOf, ih]
      rfl
  exact pieces s.toList

theorem joinPieces_pieceOf (c : Char) (rest : List Piece) :
    joinPieces none (QuotedText.pieceOf c :: rest) = (joinPieces none rest).map (c :: ·) := by
  rw [QuotedText.pieceOf]
  split
  · rename_i unit
    have low : isLowSurrogate c.toNat = false := by
      simp only [isLowSurrogate, Bool.and_eq_false_iff, decide_eq_false_iff_not]
      omega
    have high : isHighSurrogate c.toNat = false := by
      simp only [isHighSurrogate, Bool.and_eq_false_iff, decide_eq_false_iff_not]
      omega
    rw [joinPieces.eq_def]
    simp [low, high]
  · rfl

/-- **What is read is what was written**: the text between the quotes. -/
@[simp] theorem QuotedText.value_ofText (s : String) : (ofText s).value = .ok s := by
  have pieces : ∀ cs : List Char, joinPieces none (cs.map pieceOf) = .ok cs := by
    intro cs
    induction cs with
    | nil => rfl
    | cons c cs ih =>
      rw [List.map_cons, joinPieces_pieceOf, ih]
      rfl
  rw [value, ofText, pieces]
  exact congrArg Except.ok String.ofList_toList

/-! ## Numbers -/

section

open Text (digitsOf isDigit_of_mem_digitsOf exists_digitsOf_eq_cons)

/-- The digits of a number begin with a zero only if there is no other. -/
theorem digitsOf_eq_zero_cons {n : Nat} {ds : List Char} (h : digitsOf n = '0' :: ds) :
    ds = [] := by
  induction n using Nat.strongRecOn generalizing ds with
  | _ n ih =>
    by_cases small : n < 10
    · rw [digitsOf, Nat.toDigits_of_lt_base small] at h
      exact (List.cons.inj h).2.symm
    · rw [digitsOf, Nat.toDigits_of_base_le (by decide) (Nat.not_lt.1 small), ← digitsOf] at h
      -- the digits before the last one would be a zero on its own
      obtain ⟨nil, -⟩ | ⟨ds', first, -⟩ := List.append_eq_cons_iff.1 h
      · exact absurd nil Nat.toDigits_ne_nil
      · obtain rfl := ih (n / 10) (by omega) first
        have zero : n / 10 = 0 := by
          rw [← Nat.ofDigitChars_ten_toDigits (n := n / 10), ← digitsOf, first]
          rfl
        omega

/-- What may follow a value: nothing, or what goes on or ends a frame. -/
def Ends (rest : List Char) : Prop := ∀ c ∈ rest.head?, c = ',' ∨ c = ']' ∨ c = '\x7d'

theorem Ends.nil : Ends [] := by simp [Ends]

theorem ends_cons {c : Char} (rest : List Char) (h : c = ',' ∨ c = ']' ∨ c = '\x7d') :
    Ends (c :: rest) := by simpa [Ends] using h

theorem Ends.isDigit_eq_false {c : Char} {rest : List Char} (ends : Ends (c :: rest)) :
    c.isDigit = false := by
  rcases ends c rfl with rfl | rfl | rfl <;> rfl

theorem takeWhile_digitsOf (n : Nat) {rest : List Char} (ends : Ends rest) :
    (digitsOf n ++ rest).takeWhile Char.isDigit = digitsOf n ∧
      (digitsOf n ++ rest).dropWhile Char.isDigit = rest := by
  have digits : ∀ c ∈ digitsOf n, c.isDigit = true := fun c mem => isDigit_of_mem_digitsOf mem
  rw [List.takeWhile_append_of_pos digits, List.dropWhile_append_of_pos digits]
  cases rest with
  | nil => exact ⟨List.append_nil _, rfl⟩
  | cons c rest => simp [ends.isDigit_eq_false]

theorem readWhole_digitsOf (n : Nat) {rest : List Char} (ends : Ends rest) :
    readWhole (digitsOf n ++ rest) = .ok (digitsOf n, rest) := by
  obtain ⟨take, drop⟩ := takeWhile_digitsOf n ends
  obtain ⟨d, ds, digits, digit⟩ := exists_digitsOf_eq_cons n
  rw [digits] at take drop ⊢
  by_cases zero : d = '0'
  · subst zero
    obtain rfl := digitsOf_eq_zero_cons digits
    cases rest with
    | nil => rfl
    | cons c rest => simp [readWhole, ends.isDigit_eq_false]
  · rw [List.cons_append, readWhole]
    · rw [if_pos digit]
      exact congrArg Except.ok (Prod.ext take drop)
    · simp_all

theorem readFraction_of_ends {rest : List Char} (ends : Ends rest) :
    readFraction rest = .ok ([], rest) := by
  cases rest with
  | nil => rfl
  | cons c rest => rcases ends c rfl with rfl | rfl | rfl <;> rfl

theorem readExponent_of_ends {rest : List Char} (ends : Ends rest) :
    readExponent rest = .ok (none, rest) := by
  cases rest with
  | nil => rfl
  | cons c rest => rcases ends c rfl with rfl | rfl | rfl <;> rfl

theorem print_ofInt (n : Int) :
    (NumberText.ofInt n).print = (if n < 0 then ['-'] else []) ++ digitsOf n.natAbs := by
  simp [NumberText.print, NumberText.ofInt]

/-- **A whole number** is read back up to what ends it. -/
theorem readNumber_print (n : Int) {rest : List Char} (ends : Ends rest) :
    readNumber ((NumberText.ofInt n).print ++ rest) = .ok (.ofInt n, rest) := by
  have whole := readWhole_digitsOf n.natAbs ends
  rw [print_ofInt]
  by_cases negative : n < 0
  · rw [if_pos negative]
    simp [readNumber, whole, readFraction_of_ends ends, readExponent_of_ends ends, bind,
      Except.bind, pure, Except.pure, NumberText.ofInt, negative]
  · rw [if_neg negative, List.nil_append]
    have unsigned : ∀ cs, digitsOf n.natAbs ++ rest ≠ '-' :: cs := by
      intro cs same
      obtain ⟨d, ds, digits, digit⟩ := exists_digitsOf_eq_cons n.natAbs
      rw [digits] at same
      obtain rfl := (List.cons.inj same).1
      cases digit
    rw [readNumber]
    · simp [whole, readFraction_of_ends ends, readExponent_of_ends ends, bind, Except.bind, pure,
        Except.pure, NumberText.ofInt, negative]
    · exact unsigned

/-- Digits are taken in one after the other as long as the value has 64 bits. -/
theorem takeWhole_eq {ds : List Char} {significand : Nat}
    (fits : Nat.ofDigitChars 10 ds significand ≤ Text.maxUnsigned) :
    NumberText.takeWhole significand 0 ds = (Nat.ofDigitChars 10 ds significand, 0) := by
  induction ds generalizing significand with
  | nil => rfl
  | cons d ds ih =>
    rw [Nat.ofDigitChars_cons, Nat.mul_comm] at fits ⊢
    have least : significand * 10 + (d.toNat - '0'.toNat)
        ≤ Nat.ofDigitChars 10 ds (significand * 10 + (d.toNat - '0'.toNat)) := by
      rw [Nat.ofDigitChars_eq_ofDigitChars_zero]
      refine Nat.le_add_right_of_le (Nat.le_mul_of_pos_left _ ?_)
      exact Nat.pow_pos (by decide)
    rw [NumberText.takeWhole, if_pos ⟨rfl, Nat.le_trans least fits⟩, ih fits]

/-- **What is read is what was written**: a whole number of 64 bits. -/
theorem NumberText.value_ofInt {n : Int} (lower : Text.minSigned ≤ n)
    (upper : n ≤ Text.maxUnsigned) : (ofInt n).value = .ok (.whole n) := by
  have fits : Nat.ofDigitChars 10 (digitsOf n.natAbs) 0 ≤ Text.maxUnsigned := by
    rw [digitsOf, Nat.ofDigitChars_ten_toDigits]
    simp only [Text.minSigned, Text.maxUnsigned] at *
    omega
  have taken := takeWhole_eq fits
  rw [digitsOf, Nat.ofDigitChars_ten_toDigits, ← digitsOf] at taken
  simp only [value, ofInt, taken, ne_eq, not_true_eq_false, if_false]
  by_cases negative : n < 0
  · have whole : ¬ (n.natAbs = 0 ∨ Text.minSigned.natAbs < n.natAbs) := by
      simp only [Text.minSigned] at *
      omega
    have same : -(n.natAbs : Int) = n := by omega
    simp only [negative, decide_true, Bool.not_true, Bool.false_eq_true, if_false]
    rw [if_neg whole, same]
  · have same : (n.natAbs : Int) = n := by omega
    simp [negative, same]

end

/-! ## Documents -/

mutual

/-- Documents without faults, made up from values. -/
def Doc.Written : Doc → Prop
  | .null => True
  | .bool _ => True
  | .number t => ∃ n, t = .ofInt n
  | .text t => ∃ s, t = .ofText s
  | .array items => items.Written
  | .object members => members.Written
  | .absent => False
  | .brokenNumber _ => False
  | .broken _ => False
  | .unreached _ => False

def Items.Written : Items → Prop
  | .done ending => ending = .closed
  | .item value rest => value.Written ∧ rest.Written

def Members.Written : Members → Prop
  | .done ending => ending = .closed
  | .member key value rest => (∃ s, key = .ofText s) ∧ value.Written ∧ rest.Written
  | .strayKey => False

end

/-- What a value can begin with. -/
def startsValue (c : Char) : Bool :=
  c ∈ ['n', 't', 'f', '"', '[', '\x7b', '-'] || c.isDigit

theorem ne_of_startsValue {c d : Char} (h : startsValue c = true) (other : startsValue d = false) :
    c ≠ d := by
  rintro rfl
  rw [h] at other
  cases other

theorem skipBlanks_of_startsValue {c : Char} (h : startsValue c = true) (cs : List Char) :
    skipBlanks (c :: cs) = c :: cs := by
  have visible : isBlank c = false := by
    simp [isBlank, ne_of_startsValue h (d := ' ') rfl, ne_of_startsValue h (d := '\n') rfl,
      ne_of_startsValue h (d := '\t') rfl, ne_of_startsValue h (d := '\r') rfl]
  simp [skipBlanks, visible]

theorem NumberText.exists_print_eq_cons (n : Int) :
    ∃ c cs, (ofInt n).print = c :: cs ∧ (c = '-' ∨ c.isDigit = true) := by
  rw [print_ofInt]
  split
  · exact ⟨'-', _, rfl, .inl rfl⟩
  · obtain ⟨d, ds, digits, digit⟩ := Text.exists_digitsOf_eq_cons n.natAbs
    exact ⟨d, ds, digits, .inr digit⟩

theorem Doc.exists_print_eq_cons {d : Doc} (h : d.Written) :
    ∃ c cs, d.print = c :: cs ∧ startsValue c = true := by
  cases d with
  | null => exact ⟨'n', _, rfl, rfl⟩
  | bool b => cases b with
    | true => exact ⟨'t', _, rfl, rfl⟩
    | false => exact ⟨'f', _, rfl, rfl⟩
  | number t =>
    obtain ⟨n, rfl⟩ := h
    obtain ⟨c, cs, print, sign | digit⟩ := NumberText.exists_print_eq_cons n
    · exact ⟨c, cs, print, by rw [sign]; rfl⟩
    · exact ⟨c, cs, print, by simp [startsValue, digit]⟩
  | text t => exact ⟨'"', _, rfl, rfl⟩
  | array items => exact ⟨'[', _, rfl, rfl⟩
  | object members => exact ⟨'\x7b', _, rfl, rfl⟩
  | _ => cases h

/-- A value that begins like a number is read as one. -/
theorem readValue_of_number {c : Char} (h : c = '-' ∨ c.isDigit = true) {depth : Nat}
    {cs rest : List Char} {t : NumberText} (read : readNumber (c :: cs) = .ok (t, rest)) :
    readValue (depth + 1) (c :: cs) = (.number t, some rest) := by
  have starts : startsValue c = true := by
    rcases h with rfl | digit
    · rfl
    · simp [startsValue, digit]
  have apart : ∀ d, d ≠ '-' → d.isDigit = false → c ≠ d := by
    rintro d minus digit rfl
    rcases h with h | h
    · exact minus h
    · rw [h] at digit
      cases digit
  rw [readValue, skipBlanks_of_startsValue starts]
  split
  case h_8 same =>
    obtain ⟨rfl, rfl⟩ := List.cons.inj same
    rw [if_pos h, read]
  -- all other values begin with other characters
  all_goals simp_all

theorem Items.print_item_item (value next : Doc) (rest : Items) :
    (Items.item value (.item next rest)).print
      = value.print ++ ',' :: (Items.item next rest).print := by
  rw [Items.print]
  exact nofun

theorem Members.print_member_member (key next : QuotedText) (value value' : Doc)
    (rest : Members) : (Members.member key value (.member next value' rest)).print
      = key.print ++ ':' :: value.print ++ ',' :: (Members.member next value' rest).print := by
  rw [Members.print]
  exact nofun

theorem Items.exists_print_eq_cons {value : Doc} (h : value.Written) (rest : Items) :
    ∃ c cs, (Items.item value rest).print = c :: cs ∧ startsValue c = true := by
  obtain ⟨c, cs, print, starts⟩ := Doc.exists_print_eq_cons h
  cases rest with
  | done ending => exact ⟨c, cs ++ [']'], by rw [Items.print, print, List.cons_append], starts⟩
  | item next rest =>
    exact ⟨c, cs ++ ',' :: (Items.item next rest).print,
      by rw [Items.print_item_item, print, List.cons_append], starts⟩

/-- A key begins with its quote. -/
theorem Members.print_eq_cons (key : QuotedText) (value : Doc) (rest : Members) :
    ∃ inside, (Members.member key value rest).print = '"' :: inside := by
  cases rest with
  | done ending => exact ⟨_, rfl⟩
  | member next value' rest => exact ⟨_, Members.print_member_member key next value value' rest⟩
  | strayKey => exact ⟨_, rfl⟩

/-! ### One frame at a time -/

section

variable {depth : Nat} {cs rest : List Char}

theorem readValue_array {c : Char} {items : Items} (starts : startsValue c = true)
    (read : readItems depth (c :: cs) = (items, some rest)) :
    readValue (depth + 1) ('[' :: c :: cs) = (.array items, some rest) := by
  have open' := ne_of_startsValue starts (d := ']') rfl
  rw [readValue, skipBlanks_of_startsValue rfl]
  simp [skipBlanks_of_startsValue starts, read, open']

theorem readValue_object {members : Members}
    (read : readMembers depth cs = (members, some rest)) :
    readValue (depth + 1) ('\x7b' :: '"' :: cs) = (.object members, some rest) := by
  rw [readValue, skipBlanks_of_startsValue rfl]
  simp only [skipBlanks_of_startsValue (c := '"') rfl, read]

theorem readItems_last {value : Doc} (read : readValue depth cs = (value, some (']' :: rest))) :
    readItems (depth + 1) cs = (.item value (.done .closed), some rest) := by
  rw [readItems, read]
  rfl

theorem readItems_comma {value : Doc} {c : Char} {more : List Char} {items : Items}
    (read : readValue depth cs = (value, some (',' :: c :: more))) (starts : startsValue c = true)
    (others : readItems depth (c :: more) = (items, some rest)) :
    readItems (depth + 1) cs = (.item value items, some rest) := by
  have apart := ne_of_startsValue starts (d := ']') rfl
  have comma : skipBlanks (',' :: c :: more) = ',' :: c :: more := rfl
  rw [readItems, read]
  simp only [comma, skipBlanks_of_startsValue starts]
  simp [others, apart]

/-- What follows the quote of a key, up to the value. -/
theorem readMembers_last {key : String} {value : Doc} {inside : List Char}
    (text : cs = (QuotedText.ofText key).pieces.flatMap Piece.print ++ '"' :: ':' :: inside)
    (read : readValue depth inside = (value, some ('\x7d' :: rest))) :
    readMembers (depth + 1) cs = (.member (.ofText key) value (.done .closed), some rest) := by
  have colon : skipBlanks (':' :: inside) = ':' :: inside := rfl
  have closing : skipBlanks ('\x7d' :: rest) = '\x7d' :: rest := rfl
  have whole : (QuotedText.ofText key).fault.isSome = false := rfl
  rw [readMembers, text, readQuoted_print]
  simp only [colon, read, closing, whole, Bool.false_eq_true, if_false]

theorem readMembers_comma {key : String} {value : Doc} {inside more : List Char}
    {members : Members}
    (text : cs = (QuotedText.ofText key).pieces.flatMap Piece.print ++ '"' :: ':' :: inside)
    (read : readValue depth inside = (value, some (',' :: '"' :: more)))
    (others : readMembers depth more = (members, some rest)) :
    readMembers (depth + 1) cs = (.member (.ofText key) value members, some rest) := by
  have colon : skipBlanks (':' :: inside) = ':' :: inside := rfl
  have comma : skipBlanks (',' :: '"' :: more) = ',' :: '"' :: more := rfl
  have quote : skipBlanks ('"' :: more) = '"' :: more := rfl
  have whole : (QuotedText.ofText key).fault.isSome = false := rfl
  rw [readMembers, text, readQuoted_print]
  simp only [colon, read, comma, quote, others, whole, Bool.false_eq_true, if_false]

end

/-! ### Documents, items and members together -/

mutual

/-- **A document is read back**, whatever follows it. -/
theorem Doc.readValue_print (d : Doc) (h : d.Written) (depth : Nat) {rest : List Char}
    (ends : Ends rest) (deep : 2 * d.print.length ≤ depth) :
    readValue depth (d.print ++ rest) = (d, some rest) := by
  obtain ⟨depth, rfl⟩ : ∃ k, depth = k + 1 := by
    obtain ⟨c, cs, print, -⟩ := Doc.exists_print_eq_cons h
    rw [print, List.length_cons] at deep
    exact ⟨depth - 1, by omega⟩
  cases d with
  | null => rfl
  | bool b => cases b <;> rfl
  | number t =>
    obtain ⟨n, rfl⟩ := h
    obtain ⟨c, cs, print, sign⟩ := NumberText.exists_print_eq_cons n
    have read := readNumber_print n ends
    rw [print] at read
    rw [Doc.print, print]
    exact readValue_of_number sign read
  | text t =>
    obtain ⟨s, rfl⟩ := h
    rw [Doc.print, QuotedText.print, List.cons_append, List.cons_append, List.append_assoc,
      List.singleton_append, readValue, skipBlanks_of_startsValue rfl]
    simp only [readQuoted_print]
    rfl
  | array items =>
    cases items with
    | done ending =>
      obtain rfl : ending = .closed := h
      rfl
    | item value others =>
      rw [Doc.print, List.length_cons] at deep
      have inside := Items.readItems_print value others h depth rest (by omega)
      obtain ⟨c, cs, print, starts⟩ := Items.exists_print_eq_cons h.1 others
      rw [print] at inside
      rw [Doc.print, print]
      exact readValue_array starts inside
  | object members =>
    cases members with
    | done ending =>
      obtain rfl : ending = .closed := h
      rfl
    | member key value others =>
      obtain ⟨inside, print⟩ := Members.print_eq_cons key value others
      rw [Doc.print, List.length_cons] at deep
      have read := Members.readMembers_print key value others h depth rest (by omega)
        print
      rw [Doc.print, print]
      exact readValue_object read
    | strayKey => cases h
  | _ => cases h
termination_by sizeOf d

/-- So are the items of an array, up to its bracket. -/
theorem Items.readItems_print (value : Doc) (others : Items)
    (h : (Items.item value others).Written) (depth : Nat) (rest : List Char)
    (deep : 2 * (Items.item value others).print.length ≤ depth) :
    readItems depth ((Items.item value others).print ++ rest)
      = (.item value others, some rest) := by
  obtain ⟨depth, rfl⟩ : ∃ k, depth = k + 1 := by
    obtain ⟨c, cs, print, -⟩ := Items.exists_print_eq_cons h.1 others
    rw [print, List.length_cons] at deep
    exact ⟨depth - 1, by omega⟩
  cases others with
  | done ending =>
    obtain rfl : ending = .closed := h.2
    rw [Items.print, List.length_append, List.length_singleton] at deep
    have read := Doc.readValue_print value h.1 depth
      (ends_cons (c := ']') rest (by simp)) (by omega)
    rw [Items.print, List.append_assoc, List.singleton_append]
    exact readItems_last read
  | item next others =>
    rw [Items.print_item_item, List.length_append, List.length_cons] at deep
    obtain ⟨c, cs, print, starts⟩ := Items.exists_print_eq_cons h.2.1 others
    have read := Doc.readValue_print value h.1 depth
      (ends_cons (c := ',') ((Items.item next others).print ++ rest) (by simp)) (by omega)
    have more := Items.readItems_print next others h.2 depth rest (by omega)
    rw [Items.print_item_item, List.append_assoc, List.cons_append]
    rw [print, List.cons_append] at read more ⊢
    exact readItems_comma read starts more
termination_by sizeOf (Items.item value others)

/-- And the members of an object, from behind the quote of a key up to the brace. -/
theorem Members.readMembers_print (key : QuotedText) (value : Doc) (others : Members)
    (h : (Members.member key value others).Written) (depth : Nat) (rest : List Char)
    (deep : 2 * (Members.member key value others).print.length ≤ depth) {inside : List Char}
    (print : (Members.member key value others).print = '"' :: inside) :
    readMembers depth (inside ++ rest) = (.member key value others, some rest) := by
  obtain ⟨⟨text, rfl⟩, written, others'⟩ := h
  obtain ⟨depth, rfl⟩ : ∃ k, depth = k + 1 := by
    rw [print, List.length_cons] at deep
    exact ⟨depth - 1, by omega⟩
  cases others with
  | done ending =>
    obtain rfl : ending = .closed := others'
    rw [Members.print, List.length_append, List.length_append, List.length_cons] at deep
    have read := Doc.readValue_print value written depth
      (ends_cons (c := '\x7d') rest (by simp)) (by omega)
    refine readMembers_last ?_ read
    obtain rfl := (List.cons.inj print).2
    simp
  | member next value' others =>
    rw [Members.print_member_member, List.length_append, List.length_append, List.length_cons,
      List.length_cons] at deep
    obtain ⟨more, print'⟩ := Members.print_eq_cons next value' others
    have read := Doc.readValue_print value written depth
      (ends_cons (c := ',') ((Members.member next value' others).print ++ rest) (by simp))
      (by omega)
    have behind := Members.readMembers_print next value' others others' depth rest
      (by omega) print'
    rw [print', List.cons_append] at read
    refine readMembers_comma ?_ read behind
    rw [Members.print_member_member, print'] at print
    obtain rfl := (List.cons.inj print).2
    simp
  | strayKey => cases others'
termination_by sizeOf (Members.member key value others)

end

/-! ## Whole texts -/

/-- **The text of a document** says that document and nothing else. -/
theorem Document.ofText_render {d : Doc} (h : d.Written) :
    Document.ofText d.render = ⟨d, false⟩ := by
  have read := Doc.readValue_print d h (2 * d.print.length + 2) Ends.nil (by omega)
  rw [List.append_nil] at read
  simp only [Document.ofText, Doc.render, String.toList_ofList, read]
  rfl

end Conveyor.Json
