import Conveyor.Number.Binary64
import Conveyor.Text.Decimal

/-!
# JSON documents, also broken ones

What a JSON text says, kept close to the text: texts as runs of characters and escaped UTF-16
units, numbers as their digits.  A text that breaks off or goes wrong is a document too, one that
ends in a *fault* at the place where it happens.  So whoever reads a value out of a document meets
its contents and its faults in reading order, and the first thing that is wrong wins, be it the
text or the value.

* `Fault` — what can be wrong with a text.
* `Doc`, with `Items` and `Members` — documents.
* `QuotedText.value` — the text between quotes, if its escapes make one.
* `NumberText.value` — a number, whole if it is one of 64 bits, else of floating point.
* `Doc.check` — whether the text of a document is well-formed, whatever it says.
-/

namespace Conveyor.Json

/-- What is wrong with a text: it ends too early (the first four), or something stands where it
cannot. -/
inductive Fault where
  | endInArray
  | endInObject
  | endInText
  | endInValue
  | wantedColon
  | wantedCommaOrBracket
  | wantedCommaOrBrace
  | wantedName
  | wantedValue
  | badEscape
  | badNumber
  | numberTooGreat
  | controlCharacter
  | keyNotText
  | loneSurrogate
  | brokenPair
  | trailingComma
  | trailingCharacters
deriving DecidableEq, Repr

namespace Fault

/-- Whether the text just ends too early. -/
def isTruncation : Fault → Bool
  | endInArray | endInObject | endInText | endInValue => true
  | _ => false

def message : Fault → String
  | endInArray => "EOF while parsing a list"
  | endInObject => "EOF while parsing an object"
  | endInText => "EOF while parsing a string"
  | endInValue => "EOF while parsing a value"
  | wantedColon => "expected `:`"
  | wantedCommaOrBracket => "expected `,` or `]`"
  | wantedCommaOrBrace => "expected `,` or `\x7d`"
  | wantedName => "expected ident"
  | wantedValue => "expected value"
  | badEscape => "invalid escape"
  | badNumber => "invalid number"
  | numberTooGreat => "number out of range"
  | controlCharacter =>
      "control character (\\u0000-\\u001F) found while parsing a string"
  | keyNotText => "key must be a string"
  | loneSurrogate => "lone leading surrogate in hex escape"
  | brokenPair => "unexpected end of hex escape"
  | trailingComma => "trailing comma"
  | trailingCharacters => "trailing characters"

end Fault

/-! ## Texts between quotes -/

/-- A piece of a text between quotes: a character, or a UTF-16 code unit written by its number. -/
inductive Piece where
  | char (c : Char)
  | unit (n : Nat)
deriving DecidableEq, Repr

/-- How a text between quotes goes wrong. -/
inductive TextFault where
  /-- It ends before its closing quote. -/
  | cut
  /-- It holds a control character. -/
  | control
  /-- It holds an escape that there is not. -/
  | unknownEscape
  /-- It holds the escape of a code unit without four hexadecimal digits. -/
  | badDigits
deriving DecidableEq, Repr

/-- What is wrong with a document in which a text goes wrong. -/
def TextFault.toFault : TextFault → Fault
  | cut => .endInText
  | control => .controlCharacter
  | unknownEscape => .badEscape
  | badDigits => .badEscape

/-- What stands between quotes, up to the fault that ends it if the closing quote is not reached. -/
structure QuotedText where
  pieces : List Piece
  fault : Option TextFault
deriving DecidableEq, Repr

/-- First and second half of a surrogate pair. -/
def isHighSurrogate (n : Nat) : Bool := 0xD800 ≤ n && n ≤ 0xDBFF
def isLowSurrogate (n : Nat) : Bool := 0xDC00 ≤ n && n ≤ 0xDFFF

/-- The character of a surrogate pair. -/
def ofSurrogates (high low : Nat) : Char :=
  Char.ofNat (0x10000 + (high - 0xD800) * 0x400 + (low - 0xDC00))

/-- The fault of a first half of a pair after which a text ends so. -/
def unpaired : Option TextFault → Fault
  | some .cut => .endInText
  | some .badDigits => .badEscape
  | _ => .brokenPair

/-- The characters that pieces make up: units stand for themselves, pairs of surrogates for one
character, and a surrogate on its own is a fault.  `ending` is the fault after the pieces. -/
def joinPieces (ending : Option TextFault) : List Piece → Except Fault (List Char)
  | [] =>
      match ending with
      | some fault => .error fault.toFault
      | none => .ok []
  | .char c :: rest => (joinPieces ending rest).map (c :: ·)
  | .unit n :: rest =>
      if isLowSurrogate n then .error .loneSurrogate
      else if isHighSurrogate n then
        match rest with
        | .unit m :: rest =>
            if isLowSurrogate m then (joinPieces ending rest).map (ofSurrogates n m :: ·)
            else .error .loneSurrogate
        | .char _ :: _ => .error .brokenPair
        | [] => .error (unpaired ending)
      else (joinPieces ending rest).map (Char.ofNat n :: ·)

namespace QuotedText

/-- The text that stands between quotes. -/
def value (t : QuotedText) : Except Fault String := (joinPieces t.fault t.pieces).map String.ofList

/-- The fault of a text whose characters do not matter. -/
def check (t : QuotedText) : Except Fault Unit :=
  match t.fault with
  | none => .ok ()
  | some fault => .error fault.toFault

/-- The piece that a character is written as: control characters without a short escape go by
number. -/
def pieceOf (c : Char) : Piece :=
  if c.toNat < 0x20 ∧ c ∉ ['\x08', '\t', '\n', '\x0c', '\r'] then .unit c.toNat else .char c

def ofText (s : String) : QuotedText := ⟨s.toList.map pieceOf, none⟩

end QuotedText

/-! ## Numbers -/

/-- The digits of a number: before the point, after it, and of the exponent with its sign. -/
structure NumberText where
  negative : Bool
  whole : List Char
  fraction : List Char
  exponent : Option (Bool × List Char)
deriving DecidableEq, Repr

/-- A number as it counts: whole if it is one of 64 bits, else of floating point. -/
inductive Number where
  | whole (n : Int)
  | floating (negative : Bool) (magnitude : Binary64)
deriving DecidableEq, Repr

namespace NumberText

def ofInt (n : Int) : NumberText := ⟨n < 0, Text.digitsOf n.natAbs, [], none⟩

/-- Takes in digits before the point as long as the value has 64 bits; each later one only moves
the decimal point. -/
def takeWhole (significand : Nat) (scale : Int) : List Char → Nat × Int
  | [] => (significand, scale)
  | d :: ds =>
      let next := significand * 10 + (d.toNat - '0'.toNat)
      if scale = 0 ∧ next ≤ Text.maxUnsigned then takeWhole next 0 ds
      else takeWhole significand (scale + 1) ds

/-- Takes in digits after the point as long as the value has 64 bits, and drops the others. -/
def takeFraction (significand : Nat) (scale : Int) : List Char → Nat × Int
  | [] => (significand, scale)
  | d :: ds =>
      let next := significand * 10 + (d.toNat - '0'.toNat)
      if next ≤ Text.maxUnsigned then takeFraction next (scale - 1) ds else (significand, scale)

/-- The greatest exponent that is told from a greater one. -/
def maxExponent : Nat := 2147483647

/-- The number that a text stands for; one beyond the range of floating point is a fault. -/
def value (t : NumberText) : Except Fault Number :=
  let (significand, scale) := takeWhole 0 0 t.whole
  let floating (significand : Nat) (e : Int) : Except Fault Number :=
    match Binary64.scaled? significand e with
    | some x => .ok (.floating t.negative x)
    | none => .error .numberTooGreat
  match t.fraction, t.exponent with
  | [], none =>
      if scale ≠ 0 then floating significand scale
      else if !t.negative then .ok (.whole significand)
      else if significand = 0 ∨ Text.minSigned.natAbs < significand then floating significand 0
      else .ok (.whole (-significand))
  | fraction, exponent =>
      let (significand, scale) := takeFraction significand scale fraction
      match exponent with
      | none => floating significand scale
      | some (down, digits) =>
          let e := Text.valueOfDigits digits
          if e ≤ maxExponent then floating significand (if down then scale - e else scale + e)
          else if significand = 0 ∨ down then .ok (.floating t.negative ⟨0, Binary64.minExponent⟩)
          else .error .numberTooGreat

end NumberText

/-! ## Documents -/

/-- What stands after a comma where an item or a key is due, if it is neither. -/
inductive AfterComma where
  | cut
  | bracket
  | stray
deriving DecidableEq, Repr

/-- How a list of items or members ends. -/
inductive Ending where
  | closed
  /-- With the end of the text where a comma or the closing bracket is due. -/
  | cut
  /-- With something else there. -/
  | stray
  /-- After a comma. -/
  | afterComma (next : AfterComma)
deriving DecidableEq, Repr

mutual

/-- A document. -/
inductive Doc where
  | null
  | bool (b : Bool)
  | number (t : NumberText)
  | text (t : QuotedText)
  | array (items : Items)
  | object (members : Members)
  /-- The text has ended where a value is due. -/
  | absent
  /-- A number that goes wrong, or breaks off, on its way. -/
  | brokenNumber (fault : Fault)
  /-- Anything else that is no value. -/
  | broken (fault : Fault)
  /-- The text goes wrong before the place where a value is due. -/
  | unreached (fault : Fault)

/-- The items of an array. -/
inductive Items where
  | done (ending : Ending)
  | item (value : Doc) (rest : Items)

/-- The members of an object. -/
inductive Members where
  | done (ending : Ending)
  | member (key : QuotedText) (value : Doc) (rest : Members)
  /-- Something else than a text stands where the first key is due. -/
  | strayKey

end

instance : Inhabited Doc := ⟨.null⟩

/-- The fault of items that are passed over, by their ending. -/
def Ending.checkItems : Ending → Except Fault Unit
  | closed => .ok ()
  | cut => .error .endInArray
  | stray => .error .wantedCommaOrBracket
  | afterComma .cut => .error .endInValue
  | afterComma _ => .error .wantedValue

/-- The fault of members that are passed over, by their ending. -/
def Ending.checkMembers : Ending → Except Fault Unit
  | closed => .ok ()
  | cut => .error .endInObject
  | stray => .error .wantedCommaOrBrace
  | afterComma .cut => .error .endInObject
  | afterComma _ => .error .keyNotText

mutual

/-- The first fault in the text of a document that is passed over: only its form is looked at, so
a surrogate may stand alone and a number may be as great as it likes. -/
def Doc.check : Doc → Except Fault Unit
  | .null => .ok ()
  | .bool _ => .ok ()
  | .number _ => .ok ()
  | .text t => t.check
  | .array items => items.check
  | .object members => members.check
  | .absent => .error .endInValue
  | .brokenNumber _ => .error .badNumber
  | .broken fault => .error fault
  | .unreached fault => .error fault

/-- The first fault among items that are passed over. -/
def Items.check : Items → Except Fault Unit
  | .done ending => ending.checkItems
  | .item value rest => do
      value.check
      rest.check

/-- The first fault among members that are passed over. -/
def Members.check : Members → Except Fault Unit
  | .done ending => ending.checkMembers
  | .member key value rest => do
      key.check
      value.check
      rest.check
  | .strayKey => .error .keyNotText

end

def Doc.ofList (docs : List Doc) : Doc := .array (docs.foldr Items.item (.done .closed))

def Doc.ofMembers (members : List (String × Doc)) : Doc :=
  .object (members.foldr (fun m => Members.member (QuotedText.ofText m.1) m.2) (.done .closed))

def Doc.ofText (s : String) : Doc := .text (QuotedText.ofText s)

def Doc.ofInt (n : Int) : Doc := .number (NumberText.ofInt n)

end Conveyor.Json
