import Conveyor.Json.Document
import Conveyor.Text.Bytes

/-!
# From text to document

The grammar of JSON, read in one pass.  Reading never fails: where the text goes wrong the
document gets a fault, and nothing after it is looked at.

* `readValue` — a document at the start of a text, and what is left of the text if no fault ended
  it.
* `Document.ofText` — the document of a whole text, with a note of whether anything else follows.
-/

namespace Conveyor.Json

/-- The blanks of JSON. -/
def isBlank (c : Char) : Bool := c == ' ' || c == '\n' || c == '\t' || c == '\r'

def skipBlanks (cs : List Char) : List Char := cs.dropWhile isBlank

/-! ## Texts between quotes -/

def hexDigit? (c : Char) : Option Nat :=
  if c.isDigit then some (c.toNat - '0'.toNat)
  else if 'a' ≤ c ∧ c ≤ 'f' then some (c.toNat - 'a'.toNat + 10)
  else if 'A' ≤ c ∧ c ≤ 'F' then some (c.toNat - 'A'.toNat + 10)
  else none

def hexUnit? (a b c d : Char) : Option Nat := do
  pure ((((← hexDigit? a) * 16 + (← hexDigit? b)) * 16 + (← hexDigit? c)) * 16 + (← hexDigit? d))

def shortEscape? : Char → Option Char
  | '"' => some '"'
  | '\\' => some '\\'
  | '/' => some '/'
  | 'b' => some '\x08'
  | 'f' => some '\x0c'
  | 'n' => some '\n'
  | 'r' => some '\r'
  | 't' => some '\t'
  | _ => none

/-- A text that ends in a fault, after nothing. -/
def QuotedText.faulty (fault : TextFault) : QuotedText × List Char := (⟨[], some fault⟩, [])

/-- One more piece in front of what was read. -/
def QuotedText.push (piece : Piece) (read : QuotedText × List Char) : QuotedText × List Char :=
  (⟨piece :: read.1.pieces, read.1.fault⟩, read.2)

/-- What stands up to the closing quote, and what follows that quote.  Four digits of an escape
are missing if the text has fewer than four bytes left. -/
def readQuoted : List Char → QuotedText × List Char
  | [] => QuotedText.faulty .cut
  | '"' :: rest => (⟨[], none⟩, rest)
  | '\\' :: [] => QuotedText.faulty .cut
  | '\\' :: 'u' :: a :: b :: c :: d :: rest =>
      match hexUnit? a b c d with
      | some n => QuotedText.push (.unit n) (readQuoted rest)
      | none => QuotedText.faulty .badDigits
  | '\\' :: 'u' :: rest =>
      QuotedText.faulty (if Text.byteLength rest < 4 then .cut else .badDigits)
  | '\\' :: c :: rest =>
      match shortEscape? c with
      | some e => QuotedText.push (.char e) (readQuoted rest)
      | none => QuotedText.faulty .unknownEscape
  | c :: rest =>
      if c.toNat < 0x20 then QuotedText.faulty .control
      else QuotedText.push (.char c) (readQuoted rest)

/-! ## Numbers -/

def readExponent : List Char → Except Fault (Option (Bool × List Char) × List Char)
  | c :: cs =>
      if c = 'e' ∨ c = 'E' then
        let (down, cs) := match cs with
          | '+' :: cs => (false, cs)
          | '-' :: cs => (true, cs)
          | cs => (false, cs)
        match cs with
        | [] => .error .endInValue
        | d :: _ =>
            if d.isDigit then
              .ok (some (down, cs.takeWhile Char.isDigit), cs.dropWhile Char.isDigit)
            else .error .badNumber
      else .ok (none, c :: cs)
  | [] => .ok (none, [])

def readFraction : List Char → Except Fault (List Char × List Char)
  | '.' :: [] => .error .endInValue
  | '.' :: d :: cs =>
      if d.isDigit then
        .ok ((d :: cs).takeWhile Char.isDigit, (d :: cs).dropWhile Char.isDigit)
      else .error .badNumber
  | cs => .ok ([], cs)

/-- The digits before the point: a zero alone, or digits that start with another one. -/
def readWhole : List Char → Except Fault (List Char × List Char)
  | [] => .error .endInValue
  | '0' :: d :: cs => if d.isDigit then .error .badNumber else .ok (['0'], d :: cs)
  | d :: cs =>
      if d.isDigit then
        .ok ((d :: cs).takeWhile Char.isDigit, (d :: cs).dropWhile Char.isDigit)
      else .error .badNumber

/-- A number, and what follows it. -/
def readNumber (cs : List Char) : Except Fault (NumberText × List Char) := do
  let (negative, cs) := match cs with
    | '-' :: cs => (true, cs)
    | cs => (false, cs)
  let (whole, cs) ← readWhole cs
  let (fraction, cs) ← readFraction cs
  let (exponent, cs) ← readExponent cs
  pure (⟨negative, whole, fraction, exponent⟩, cs)

/-! ## Values -/

/-- The rest of a literal name: what follows it, or how it goes wrong. -/
def readName : List Char → List Char → Except Fault (List Char)
  | [], cs => .ok cs
  | _ :: _, [] => .error .endInValue
  | n :: name, c :: cs => if n = c then readName name cs else .error .wantedName

/-- A literal name as a document. -/
def literal (value : Doc) (read : Except Fault (List Char)) : Doc × Option (List Char) :=
  match read with
  | .ok rest => (value, some rest)
  | .error fault => (.broken fault, none)

mutual

/-- The document at the start of a text, and what follows it unless it ends in a fault.  The first
argument bounds the depth of the recursion; twice the length of the text is always enough. -/
def readValue : Nat → List Char → Doc × Option (List Char)
  | 0, _ => (.broken .wantedValue, none)
  | depth + 1, cs =>
      match skipBlanks cs with
      | [] => (.absent, none)
      | 'n' :: rest => literal .null (readName "ull".toList rest)
      | 't' :: rest => literal (.bool true) (readName "rue".toList rest)
      | 'f' :: rest => literal (.bool false) (readName "alse".toList rest)
      | '"' :: rest =>
          let (t, rest) := readQuoted rest
          (.text t, if t.fault.isNone then some rest else none)
      | '[' :: rest =>
          match skipBlanks rest with
          | [] => (.array (.done .cut), none)
          | ']' :: rest => (.array (.done .closed), some rest)
          | rest =>
              let (items, rest) := readItems depth rest
              (.array items, rest)
      | '\x7b' :: rest =>
          match skipBlanks rest with
          | [] => (.object (.done .cut), none)
          | '\x7d' :: rest => (.object (.done .closed), some rest)
          | '"' :: rest =>
              let (members, rest) := readMembers depth rest
              (.object members, rest)
          | _ => (.object .strayKey, none)
      | c :: rest =>
          if c = '-' ∨ c.isDigit then
            match readNumber (c :: rest) with
            | .ok (t, rest) => (.number t, some rest)
            | .error fault => (.brokenNumber fault, none)
          else (.broken .wantedValue, none)

/-- The items of an array from a value on. -/
def readItems : Nat → List Char → Items × Option (List Char)
  | 0, _ => (.done .stray, none)
  | depth + 1, cs =>
      match readValue depth cs with
      | (value, none) => (.item value (.done .closed), none)
      | (value, some rest) =>
          match skipBlanks rest with
          | [] => (.item value (.done .cut), none)
          | ']' :: rest => (.item value (.done .closed), some rest)
          | ',' :: rest =>
              match skipBlanks rest with
              | [] => (.item value (.done (.afterComma .cut)), none)
              | ']' :: _ => (.item value (.done (.afterComma .bracket)), none)
              | rest =>
                  let (items, rest) := readItems depth rest
                  (.item value items, rest)
          | _ => (.item value (.done .stray), none)

/-- The members of an object from inside the quotes of a key on. -/
def readMembers : Nat → List Char → Members × Option (List Char)
  | 0, _ => (.done .stray, none)
  | depth + 1, cs =>
      let (key, rest) := readQuoted cs
      if key.fault.isSome then (.member key .absent (.done .closed), none)
      else
        match skipBlanks rest with
        | [] => (.member key (.unreached .endInObject) (.done .closed), none)
        | ':' :: rest =>
            match readValue depth rest with
            | (value, none) => (.member key value (.done .closed), none)
            | (value, some rest) =>
                match skipBlanks rest with
                | [] => (.member key value (.done .cut), none)
                | '\x7d' :: rest => (.member key value (.done .closed), some rest)
                | ',' :: rest =>
                    match skipBlanks rest with
                    | [] => (.member key value (.done (.afterComma .cut)), none)
                    | '\x7d' :: _ => (.member key value (.done (.afterComma .bracket)), none)
                    | '"' :: rest =>
                        let (members, rest) := readMembers depth rest
                        (.member key value members, rest)
                    | _ => (.member key value (.done (.afterComma .stray)), none)
                | _ => (.member key value (.done .stray), none)
        | _ => (.member key (.unreached .wantedColon) (.done .closed), none)

end

/-- A whole text: its document, and whether anything but blanks follows. -/
structure Document where
  root : Doc
  trailing : Bool

def Document.ofText (text : String) : Document :=
  let cs := text.toList
  match readValue (2 * cs.length + 2) cs with
  | (root, some rest) => ⟨root, !(skipBlanks rest).isEmpty⟩
  | (root, none) => ⟨root, false⟩

end Conveyor.Json
