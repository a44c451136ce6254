import Conveyor.Json.Reader
import Conveyor.Json.Printer
import Conveyor.Number.Shortest
import Conveyor.Text.Quoted
import Conveyor.Dict
import Conveyor.Time.Rfc3339

/-!
# Values and their documents

A *codec* ties a type of values to documents in both directions: what is written for a value, and
what is read from a document or why nothing can be.  Codecs of simple values are given here, and
ways to build the codec of a list, an option or a dictionary from that of its contents.

* `ReadError`, `Mismatch` — why a document is not the text of a value.
* `Codec` — the two directions.
* `Codec.whole`, `Codec.bool`, `Codec.text`, `Codec.timestamp` — simple values.
* `Codec.list`, `Codec.option`, `Codec.dict`, `Codec.textSet` — contents within a frame.
* `Codec.decode`, `Codec.encode` — from and to the text of a document.
-/

namespace Conveyor.Json

/-- What a document was found to hold where something else was wanted. -/
inductive Found where
  | null
  | bool (b : Bool)
  | whole (n : Int)
  | floating (negative : Bool) (magnitude : Binary64)
  | text (s : String)
  | sequence
  | map
  | unitVariant
deriving DecidableEq, Repr

/-- Why a well-formed document does not say a value of the wanted type. -/
inductive Mismatch where
  | missingField (name : String)
  | duplicateField (name : String)
  | unknownVariant (found : String) (known : List String)
  | wrongType (found : Found) (wanted : String)
  | wrongValue (found : Found) (wanted : String)
  | wrongLength (length : Nat) (wanted : String)
  | notATime (error : Rfc3339.ReadError)
deriving DecidableEq, Repr

/-- Why no value can be read from a text. -/
inductive ReadError where
  | fault (fault : Fault)
  | mismatch (mismatch : Mismatch)
deriving DecidableEq, Repr

/-! ## Wording -/

def Found.describe : Found → String
  | null => "null"
  | bool true => "boolean `true`"
  | bool false => "boolean `false`"
  | whole n => "integer `" ++ toString n ++ "`"
  | floating negative x => "floating point `" ++ x.text negative ++ "`"
  | text s => "string " ++ Text.quoted s
  | sequence => "sequence"
  | map => "map"
  | unitVariant => "unit variant"

/-- A name between the marks that set it off. -/
def ticked (name : String) : String := "`" ++ name ++ "`"

/-- The known variants of a choice, in words. -/
def describeVariants : List String → String
  | [] => "there are no variants"
  | [a] => "expected " ++ ticked a
  | [a, b] => "expected " ++ ticked a ++ " or " ++ ticked b
  | many => "expected one of " ++ ", ".intercalate (many.map ticked)

def Mismatch.message : Mismatch → String
  | missingField name => "missing field " ++ ticked name
  | duplicateField name => "duplicate field " ++ ticked name
  | unknownVariant found known =>
      "unknown variant " ++ ticked found ++ ", " ++ describeVariants known
  | wrongType found wanted => "invalid type: " ++ found.describe ++ ", expected " ++ wanted
  | wrongValue found wanted => "invalid value: " ++ found.describe ++ ", expected " ++ wanted
  | wrongLength length wanted =>
      "invalid length " ++ toString length ++ ", expected " ++ wanted
  | notATime error => error.message

/-! ## Codecs -/

/-- A type of values and their documents. -/
structure Codec (α : Type) where
  /-- The value that a document says. -/
  read : Doc → Except ReadError α
  /-- The document of a value. -/
  write : α → Doc
  /-- The value that a missing member stands for, if it may be missing. -/
  missing : Option α

def ReadError.message : ReadError → String
  | fault f => f.message
  | mismatch m => m.message

/-- A fault as a reading error. -/
def liftFault {α : Type} (r : Except Fault α) : Except ReadError α := r.mapError .fault

/-- What a document holds; its own fault if it has one that far. -/
def Doc.found : Doc → Except ReadError Found
  | .null => .ok .null
  | .bool b => .ok (.bool b)
  | .number t =>
      match t.value with
      | .ok (.whole n) => .ok (.whole n)
      | .ok (.floating negative x) => .ok (.floating negative x)
      | .error fault => .error (.fault fault)
  | .text t => (liftFault t.value).map .text
  | .array _ => .ok .sequence
  | .object _ => .ok .map
  | .absent => .error (.fault .endInValue)
  | .brokenNumber fault => .error (.fault fault)
  | .broken fault => .error (.fault fault)
  | .unreached fault => .error (.fault fault)

def Doc.unwanted {α : Type} (d : Doc) (wanted : String) : Except ReadError α :=
  match d.found with
  | .ok found => .error (.mismatch (.wrongType found wanted))
  | .error e => .error e

/-- Passes over a document. -/
def Doc.skip (d : Doc) : Except ReadError Unit := liftFault d.check

/-- The fault of items that are read, by their ending. -/
def Ending.readItems : Ending → Except ReadError Unit
  | closed => .ok ()
  | cut => .error (.fault .endInArray)
  | stray => .error (.fault .wantedCommaOrBracket)
  | afterComma .cut => .error (.fault .endInValue)
  | afterComma _ => .error (.fault .trailingComma)

/-- The fault of members that are read, by their ending. -/
def Ending.readMembers : Ending → Except ReadError Unit
  | closed => .ok ()
  | cut => .error (.fault .endInObject)
  | stray => .error (.fault .wantedCommaOrBrace)
  | afterComma .cut => .error (.fault .endInValue)
  | afterComma .bracket => .error (.fault .trailingComma)
  | afterComma .stray => .error (.fault .keyNotText)

/-- Accepts the end of items that have to end here. -/
def Items.close : Items → Except ReadError Unit
  | .done .closed => .ok ()
  | .done .cut => .error (.fault .endInArray)
  | .done (.afterComma .bracket) => .error (.fault .trailingComma)
  | .done _ => .error (.fault .trailingCharacters)
  | .item _ _ => .error (.fault .trailingCharacters)

namespace Codec

variable {α β : Type}

/-- The same documents for another type of values. -/
def iso (c : Codec α) (forth : α → β) (back : β → α) : Codec β where
  read d := (c.read d).map forth
  write b := c.write (back b)
  missing := c.missing.map forth

/-! ### Simple values -/

/-- Whole numbers within bounds. -/
def whole (lo hi : Int) (wanted : String) : Codec Int where
  read
    | .number t => do
        match ← liftFault t.value with
        | .whole n =>
            if lo ≤ n ∧ n ≤ hi then pure n
            else throw (.mismatch (.wrongValue (.whole n) wanted))
        | .floating negative x =>
            throw (.mismatch (.wrongType (.floating negative x) wanted))
    | d => d.unwanted wanted
  write n := .ofInt n
  missing := none

def natural (hi : Nat) (wanted : String) : Codec Nat :=
  (whole 0 hi wanted).iso Int.toNat Int.ofNat

def signed64 : Codec Int := whole Text.minSigned Text.maxSigned "i64"

def unsigned64 : Codec Nat := natural Text.maxUnsigned "u64"

def size : Codec Nat := natural Text.maxUnsigned "usize"

def unsigned32 : Codec Nat := natural 4294967295 "u32"

def byte : Codec UInt8 := (natural 255 "u8").iso UInt8.ofNat UInt8.toNat

def bool : Codec Bool where
  read
    | .bool b => .ok b
    | d => d.unwanted "a boolean"
  write := .bool
  missing := none

def text : Codec String where
  read
    | .text t => liftFault t.value
    | d => d.unwanted "a string"
  write := .ofText
  missing := none

/-- Timestamps, read leniently and written with the zone `Z`. -/
def timestamp : Codec Timestamp where
  read
    | .text t => do
        match Rfc3339.readLenient (← liftFault t.value) with
        | .ok time => pure time
        | .error e => throw (.mismatch (.notATime e))
    | d => d.unwanted "an RFC 3339 formatted date and time string"
  write t := .ofText t.wire
  missing := none

/-! ### Frames -/

/-- A value or nothing; a missing member is nothing. -/
def option (c : Codec α) : Codec (Option α) where
  read
    | .null => .ok none
    | d => (c.read d).map some
  write
    | none => .null
    | some a => c.write a
  missing := some none

/-- The values of items in order. -/
def readItems (c : Codec α) : Items → Except ReadError (List α)
  | .done ending => ending.readItems.map fun _ => []
  | .item value rest => do
      let a ← c.read value
      let as ← readItems c rest
      pure (a :: as)

def list (c : Codec α) : Codec (List α) where
  read
    | .array items => readItems c items
    | d => d.unwanted "a sequence"
  write as := .ofList (as.map c.write)
  missing := none

/-- Adds the values of members to a dictionary; a repeated key takes the last value. -/
def readMembers (c : Codec α) (d : Dict α) : Members → Except ReadError (Dict α)
  | .done ending => ending.readMembers.map fun _ => d
  | .member key value rest => do
      let key ← liftFault key.value
      let a ← c.read value
      readMembers c (d.insert key a) rest
  | .strayKey => .error (.fault .keyNotText)

def dict (c : Codec α) : Codec (Dict α) where
  read
    | .object members => readMembers c .empty members
    | d => d.unwanted "a map"
  write d := .ofMembers (d.entries.map fun e => (e.1, c.write e.2))
  missing := none

/-- Sets of texts, as lists. -/
def textSet : Codec TextSet := (list text).iso TextSet.ofTexts TextSet.toTexts

/-! ### Texts of documents -/

def encode (c : Codec α) (a : α) : String := (c.write a).render

def decode (c : Codec α) (s : String) : Except ReadError α := do
  let document := Document.ofText s
  let a ← c.read document.root
  if document.trailing then throw (.fault .trailingCharacters)
  pure a

end Codec

end Conveyor.Json
