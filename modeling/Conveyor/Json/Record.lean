import Conveyor.Json.Codec

/-!
# Records and choices

A record is written as an object with its fields in order, and read from such an object with its
members in any order, or from an array of its fields in order.  Members of other names are passed
over.  A choice is written as its name, or as an object of one member if it carries a value.

* `Field`, `Fields` — the fields of a record; a record's values are kept as nested pairs.
* `Codec.record` — the codec of a record.
* `Codec.choice` — the codec of a choice without values.
* `Variant`, `Codec.tagged` — the codec of a choice whose variants carry values.
-/

namespace Conveyor.Json

/-- A field of a record. -/
structure Field (α : Type) where
  name : String
  codec : Codec α
  /-- The value of a record that does not have the field, if the record has one. -/
  fallback : Option α

/-- A field that every record has, unless its type says what a missing one means. -/
def required {α : Type} (name : String) (codec : Codec α) : Field α := ⟨name, codec, none⟩

/-- A field with a value for records that do not have it. -/
def optional {α : Type} (name : String) (codec : Codec α) (fallback : α) : Field α :=
  ⟨name, codec, some fallback⟩

/-- The fields of a record whose values are nested pairs. -/
inductive Fields : Type → Type 1 where
  | nil : Fields Unit
  | cons {α β : Type} (field : Field α) (rest : Fields β) : Fields (α × β)

namespace Fields

def count : {β : Type} → Fields β → Nat
  | _, .nil => 0
  | _, .cons _ rest => rest.count + 1

def Slots : {β : Type} → Fields β → Type
  | _, .nil => Unit
  | _, @Fields.cons α _ _ rest => Option α × rest.Slots

def noSlots : {β : Type} → (fs : Fields β) → fs.Slots
  | _, .nil => ()
  | _, .cons _ rest => (none, rest.noSlots)

/-- Reads a member into the slot of its name; none if no field has that name. -/
def readMember : {β : Type} → (fs : Fields β) → String → Doc → fs.Slots →
    Except ReadError (Option fs.Slots)
  | _, .nil, _, _, _ => .ok none
  | _, @Fields.cons α _ field rest, key, value, slots =>
      let (slot, others) : Option α × rest.Slots := slots
      if field.name = key then
        match slot with
        | some _ => .error (.mismatch (.duplicateField key))
        | none => (field.codec.read value).map fun a => some (some a, others)
      else (rest.readMember key value others).map fun read => read.map fun others => (slot, others)

def readMembers {β : Type} (fs : Fields β) (slots : fs.Slots) : Members → Except ReadError fs.Slots
  | .done ending => ending.readMembers.map fun _ => slots
  | .member key value rest => do
      let key ← liftFault key.value
      match ← fs.readMember key value slots with
      | some slots => fs.readMembers slots rest
      | none => do
          value.skip
          fs.readMembers slots rest
  | .strayKey => .error (.fault .keyNotText)

/-- The value of a record once its members are read: what is missing is filled in. -/
def fillIn : {β : Type} → (fs : Fields β) → fs.Slots → Except ReadError β
  | _, .nil, _ => .ok ()
  | _, @Fields.cons α _ field rest, slots => do
      let (slot, others) : Option α × rest.Slots := slots
      let a ← match slot <|> field.fallback <|> field.codec.missing with
        | some a => pure a
        | none => throw (.mismatch (.missingField field.name))
      let b ← rest.fillIn others
      pure (a, b)

/-- Reads the items of an array as the fields in order and answers the items that are left.  Where
the array has ended, only a field's own fallback helps. -/
def readItems (wanted : String) : {β : Type} → (fs : Fields β) → Nat → Items →
    Except ReadError (β × Items)
  | _, .nil, _, items => .ok ((), items)
  | _, .cons field rest, index, .item value items => do
      let a ← field.codec.read value
      let (b, left) ← rest.readItems wanted (index + 1) items
      pure ((a, b), left)
  | _, .cons field rest, index, .done ending => do
      ending.readItems
      match field.fallback with
      | none => throw (.mismatch (.wrongLength index wanted))
      | some a => do
          let (b, left) ← rest.readItems wanted (index + 1) (.done ending)
          pure ((a, b), left)

def write : {β : Type} → Fields β → β → List (String × Doc)
  | _, .nil, _ => []
  | _, .cons field rest, (a, b) => (field.name, field.codec.write a) :: rest.write b

end Fields

def describeRecord (name : String) : String := "struct " ++ name

def describeLength (name : String) (count : Nat) : String :=
  describeRecord name ++ " with " ++ toString count ++ if count = 1 then " element" else " elements"

namespace Codec

/-- The codec of a record. -/
def record {β : Type} (name : String) (fs : Fields β) : Codec β where
  read
    | .object members => do
        let slots ← fs.readMembers fs.noSlots members
        fs.fillIn slots
    | .array items => do
        let (b, left) ← fs.readItems (describeLength name fs.count) 0 items
        left.close
        pure b
    | d => d.unwanted (describeRecord name)
  write b := .ofMembers (fs.write b)
  missing := none

/-! ## Choices -/

/-- The value that stands for a variant without a value: nothing. -/
def unit : Codec Unit where
  read
    | .null => .ok ()
    | d => d.unwanted "unit"
  write _ := .null
  missing := none

end Codec

/-- Accepts the end of an object that has one member. -/
def Members.close : Members → Except ReadError Unit
  | .done .closed => .ok ()
  | .done .cut => .error (.fault .endInObject)
  | _ => .error (.fault .wantedValue)

/-- Reads a choice: the name of a variant, handled by `named`, or an object of the name of a
variant and its value, handled by `valued`.  Of anything else only the first character is looked
at, if the text gets there: it starts no choice. -/
def readChoice {α : Type} (named : String → Except ReadError α)
    (valued : String → Except ReadError (Doc → Except ReadError α)) : Doc → Except ReadError α
  | .text t => do named (← liftFault t.value)
  | .object (.member key value rest) => do
      let a ← (← valued (← liftFault key.value)) value
      rest.close
      pure a
  | .object (.done .cut) => .error (.fault .endInValue)
  | .absent => .error (.fault .endInValue)
  | .unreached fault => .error (.fault fault)
  | _ => .error (.fault .wantedValue)

namespace Codec

/-- The codec of a choice among names. -/
def choice {α : Type} (variants : List (String × α)) (nameOf : α → String) : Codec α where
  read := readChoice find fun name => do
    let a ← find name
    pure fun value => (unit.read value).map fun _ => a
  write a := .ofText (nameOf a)
  missing := none
where
  find (name : String) : Except ReadError α :=
    match variants.find? (·.1 = name) with
    | some (_, a) => .ok a
    | none => .error (.mismatch (.unknownVariant name (variants.map (·.1))))

end Codec

/-- A variant that carries a value: its name and how the value is read. -/
structure Variant (α : Type) where
  name : String
  read : Doc → Except ReadError α

namespace Codec

/-- The codec of a choice whose variants carry values: an object of one member. -/
def tagged {α : Type} (variants : List (Variant α)) (write : α → String × Doc) : Codec α where
  read := readChoice
    (fun name => do
      let _ ← find name
      throw (.mismatch (.wrongType .unitVariant "newtype variant")))
    (fun name => do
      let variant ← find name
      pure variant.read)
  write a := .ofMembers [write a]
  missing := none
where
  find (name : String) : Except ReadError (Variant α) :=
    match variants.find? (·.name = name) with
    | some variant => .ok variant
    | none => .error (.mismatch (.unknownVariant name (variants.map (·.name))))

end Codec

end Conveyor.Json
