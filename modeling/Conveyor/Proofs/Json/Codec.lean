import Conveyor.Json.Record
import Conveyor.Proofs.Json.Document
import Conveyor.Proofs.Time.Wire

/-!
# Codecs that keep values

A codec *keeps* a value if the document that it writes for the value has no faults and is read as
the value again.  A codec that is built up from others keeps what they keep, so whether a value is
kept is a question about its simple parts: all of them are, but for numbers outside of 64 bits.

* `Codec.Keeps` — the law of a codec at a value; **`Codec.Keeps.decode`** is what it means for
  texts.
* `Codec.whole_keeps`, `Codec.text_keeps`, `Codec.timestamp_keeps`, … — simple values.
* `Codec.option_keeps`, `Codec.list_keeps`, `Codec.dict_keeps`, `Codec.textSet_keeps` — frames.
* `Fields.Keeps` and **`Codec.record_keeps`** — records whose fields have different names.
* `Codec.tagged_keeps` — choices.
-/

namespace Conveyor

/-! ## Dictionaries from their entries -/

namespace Dict

variable {β : Type} {entries : List (String × β)}

theorem lookup_eq_some_iff (distinct : (entries.map (·.1)).Nodup) {key : String} {value : β} :
    lookup key entries = some value ↔ (key, value) ∈ entries := by
  induction entries with
  | nil => simp [lookup]
  | cons e entries ih =>
    obtain ⟨fresh, distinct⟩ := List.nodup_cons.1 distinct
    by_cases same : e.1 = key
    · have elsewhere : (key, value) ∉ entries := fun mem =>
        fresh (List.mem_map.2 ⟨_, mem, same.symm⟩)
      simp [lookup, same, elsewhere, Prod.ext_iff, eq_comm]
    · have apart : (key, value) ≠ e := fun eq => same (eq ▸ rfl)
      simp [lookup, same, apart, ih distinct]

/-- Entries of different keys are all found after they were inserted. -/
theorem get?_foldl_insert (distinct : (entries.map (·.1)).Nodup) (d : Dict β) (key : String) :
    (entries.foldl (fun d e => d.insert e.1 e.2) d).get? key
      = (lookup key entries).or (d.get? key) := by
  induction entries generalizing d with
  | nil => rfl
  | cons e entries ih =>
    obtain ⟨fresh, distinct⟩ := List.nodup_cons.1 distinct
    rw [List.foldl_cons, ih distinct, get?_insert]
    by_cases same : e.1 = key
    · have none_more : lookup key entries = none := by
        refine Option.eq_none_iff_forall_ne_some.2 fun value found => ?_
        have mem := (lookup_eq_some_iff distinct).1 found
        exact fresh (List.mem_map.2 ⟨_, mem, same.symm⟩)
      simp [lookup, same, none_more]
    · simp [lookup, same]

theorem nodup_keys (d : Dict β) : (d.entries.map (·.1)).Nodup :=
  List.pairwise_map.2 (d.sorted.imp String.ne_of_lt)

/-- **A dictionary is made up from its entries**, in whatever order they come. -/
theorem ofList_of_perm {d : Dict β} (h : entries.Perm d.entries) : ofList entries = d := by
  have distinct : (entries.map (·.1)).Nodup := (h.map _).nodup_iff.2 d.nodup_keys
  refine ext_get? fun key => ?_
  rw [ofList, get?_foldl_insert distinct, get?_empty, Option.or_none]
  refine Option.ext fun value => ?_
  rw [lookup_eq_some_iff distinct, h.mem_iff, get?, lookup_eq_some_iff d.nodup_keys]

end Dict

theorem TextSet.ofTexts_toTexts (s : TextSet) : ofTexts s.toTexts = s := by
  have entries : s.toTexts.foldl add Dict.empty = Dict.ofList s.entries := by
    rw [toTexts, Dict.keys, List.foldl_map]
    rfl
  exact entries.trans (Dict.ofList_of_perm (.refl _))

namespace Json

/-- What a codec writes for a value has no faults and is read as the value. -/
structure Codec.Keeps {α : Type} (c : Codec α) (a : α) : Prop where
  written : (c.write a).Written
  read : c.read (c.write a) = .ok a

/-- **The text of a value that is kept** is read as the value. -/
theorem Codec.Keeps.decode {α : Type} {c : Codec α} {a : α} (h : c.Keeps a) :
    c.decode (c.encode a) = .ok a := by
  have text : Document.ofText (c.encode a) = ⟨c.write a, false⟩ := Document.ofText_render h.written
  simp [Codec.decode, text, h.read, bind, Except.bind, pure, Except.pure]

/-! ## Documents made up from values -/

theorem written_ofText (s : String) : (Doc.ofText s).Written := ⟨s, rfl⟩

theorem written_ofInt (n : Int) : (Doc.ofInt n).Written := ⟨n, rfl⟩

theorem written_ofList {docs : List Doc} (h : ∀ d ∈ docs, d.Written) :
    (Doc.ofList docs).Written := by
  show (docs.foldr Items.item (.done .closed)).Written
  induction docs with
  | nil => rfl
  | cons d docs ih => exact ⟨h d (by simp), ih fun d mem => h d (by simp [mem])⟩

theorem written_ofMembers {members : List (String × Doc)} (h : ∀ m ∈ members, m.2.Written) :
    (Doc.ofMembers members).Written := by
  show Members.Written (members.foldr _ _)
  induction members with
  | nil => rfl
  | cons m members ih => exact ⟨⟨m.1, rfl⟩, h m (by simp), ih fun m mem => h m (by simp [mem])⟩

namespace Codec

variable {α β : Type} {c : Codec α}

theorem Keeps.iso {forth : α → β} {back : β → α} {b : β} (h : c.Keeps (back b))
    (same : forth (back b) = b) : (c.iso forth back).Keeps b where
  written := h.written
  read := by
    show (c.read (c.write (back b))).map forth = .ok b
    rw [h.read, Except.map, same]

/-! ## Simple values -/

theorem whole_keeps {lo hi n : Int} {wanted : String} (lower : lo ≤ n) (upper : n ≤ hi)
    (least : Text.minSigned ≤ n) (most : n ≤ Text.maxUnsigned) : (whole lo hi wanted).Keeps n where
  written := written_ofInt n
  read := by
    simp [whole, Doc.ofInt, NumberText.value_ofInt least most, liftFault, Except.mapError, bind,
      Except.bind, lower, upper, pure, Except.pure]

theorem signed64_keeps {n : Int} (lower : Text.minSigned ≤ n) (upper : n ≤ Text.maxSigned) :
    signed64.Keeps n :=
  whole_keeps lower upper lower (Int.le_trans upper (by decide))

theorem natural_keeps {hi n : Nat} {wanted : String} (upper : n ≤ hi)
    (most : hi ≤ Text.maxUnsigned) : (natural hi wanted).Keeps n := by
  have least : Text.minSigned ≤ (n : Int) := by
    simp only [Text.minSigned]
    omega
  exact (whole_keeps (Int.natCast_nonneg n) (by omega) least (by omega)).iso rfl

theorem byte_keeps (b : UInt8) : byte.Keeps b := by
  have upper : b.toNat ≤ 255 := Nat.le_of_lt_succ b.toNat_lt
  exact (natural_keeps upper (by decide)).iso UInt8.ofNat_toNat

theorem bool_keeps (b : Bool) : bool.Keeps b := ⟨trivial, rfl⟩

theorem text_keeps (s : String) : text.Keeps s where
  written := written_ofText s
  read := by
    show liftFault (QuotedText.ofText s).value = .ok s
    rw [QuotedText.value_ofText]
    rfl

theorem timestamp_keeps (t : Timestamp) : timestamp.Keeps t where
  written := written_ofText t.wire
  read := by
    simp [timestamp, Doc.ofText, liftFault, Except.mapError, Rfc3339.readLenient_wire, bind,
      Except.bind, pure, Except.pure]

/-! ## Frames -/

theorem read_option_of_ne_null {d : Doc} (h : d ≠ .null) :
    c.option.read d = (c.read d).map some := by
  cases d with
  | null => exact absurd rfl h
  | _ => rfl

/-- A value within an option is kept if it is not written as nothing. -/
theorem option_keeps {o : Option α} (h : ∀ a ∈ o, c.Keeps a ∧ c.write a ≠ .null) :
    c.option.Keeps o := by
  cases o with
  | none => exact ⟨trivial, rfl⟩
  | some a =>
    obtain ⟨keeps, some_doc⟩ := h a rfl
    refine ⟨keeps.written, ?_⟩
    show c.option.read (c.write a) = .ok (some a)
    rw [read_option_of_ne_null some_doc, keeps.read]
    rfl

theorem list_keeps {as : List α} (h : ∀ a ∈ as, c.Keeps a) : c.list.Keeps as where
  written := written_ofList fun d mem => by
    obtain ⟨a, of, rfl⟩ := List.mem_map.1 mem
    exact (h a of).written
  read := by
    show readItems c ((as.map c.write).foldr Items.item (.done .closed)) = .ok as
    induction as with
    | nil => rfl
    | cons a as ih =>
      rw [List.map_cons, List.foldr_cons, readItems, (h a (by simp)).read,
        ih fun b mem => h b (by simp [mem])]
      rfl

/-- Reading members that are kept inserts them one after the other. -/
theorem readMembers_entries {entries : List (String × α)} (h : ∀ e ∈ entries, c.Keeps e.2)
    (d : Dict α) :
    readMembers c d ((entries.map fun e => (e.1, c.write e.2)).foldr
        (fun m => Members.member (.ofText m.1) m.2) (.done .closed))
      = .ok (entries.foldl (fun d e => d.insert e.1 e.2) d) := by
  induction entries generalizing d with
  | nil => rfl
  | cons e entries ih =>
    rw [List.map_cons, List.foldr_cons, readMembers, QuotedText.value_ofText,
      (h e (by simp)).read, List.foldl_cons]
    exact ih (fun e mem => h e (by simp [mem])) _

/-- A dictionary is read from its entries in any order. -/
theorem read_dict_of_perm {d : Dict α} {entries : List (String × α)}
    (order : entries.Perm d.entries) (h : ∀ e ∈ d.entries, c.Keeps e.2) :
    c.dict.read (.ofMembers (entries.map fun e => (e.1, c.write e.2))) = .ok d := by
  have read := readMembers_entries (fun e mem => h e (order.subset mem)) .empty
  exact read.trans (congrArg Except.ok (Dict.ofList_of_perm order))

theorem dict_keeps {d : Dict α} (h : ∀ e ∈ d.entries, c.Keeps e.2) : c.dict.Keeps d where
  written := written_ofMembers fun m mem => by
    obtain ⟨e, of, rfl⟩ := List.mem_map.1 mem
    exact (h e of).written
  read := read_dict_of_perm (.refl _) h

theorem textSet_keeps (s : TextSet) : textSet.Keeps s :=
  (list_keeps fun t _ => text_keeps t).iso s.ofTexts_toTexts

end Codec

/-! ## Records -/

namespace Fields

/-- The names of fields. -/
def names : {β : Type} → Fields β → List String
  | _, .nil => []
  | _, .cons field rest => field.name :: rest.names

/-- Every field's value is kept by the field's codec. -/
def Keeps : {β : Type} → Fields β → β → Prop
  | _, .nil, _ => True
  | _, .cons field rest, (a, b) => field.codec.Keeps a ∧ rest.Keeps b

/-- The slots of fields all of which were read. -/
def filled : {β : Type} → (fs : Fields β) → β → fs.Slots
  | _, .nil, _ => ()
  | _, .cons _ rest, (a, b) => (some a, rest.filled b)

theorem fillIn_filled {β : Type} (fs : Fields β) (b : β) : fs.fillIn (fs.filled b) = .ok b := by
  induction fs with
  | nil => rfl
  | cons field rest ih =>
    obtain ⟨a, b⟩ := b
    show (rest.fillIn (rest.filled b)).bind _ = _
    rw [ih]
    rfl

theorem keys_write {β : Type} (fs : Fields β) (b : β) :
    (fs.write b).map (·.1) = fs.names := by
  induction fs with
  | nil => rfl
  | cons field rest ih => exact congrArg (field.name :: ·) (ih b.2)

theorem written_write {β : Type} {fs : Fields β} {b : β} (h : fs.Keeps b) :
    ∀ m ∈ fs.write b, m.2.Written := by
  induction fs with
  | nil => exact nofun
  | cons field rest ih =>
    intro m mem
    rcases List.mem_cons.1 mem with rfl | mem
    · exact h.1.written
    · exact ih h.2 m mem

/-- The members of an object as they are written. -/
def membersOf (members : List (String × Doc)) : Members :=
  members.foldr (fun m => Members.member (.ofText m.1) m.2) (.done .closed)

theorem readMembers_member {β : Type} (fs : Fields β) (slots : fs.Slots) (key : String)
    (value : Doc) (rest : Members) :
    fs.readMembers slots (.member (.ofText key) value rest)
      = (fs.readMember key value slots).bind fun
        | some slots => fs.readMembers slots rest
        | none => value.skip.bind fun _ => fs.readMembers slots rest := by
  rw [readMembers.eq_def]
  simp only [QuotedText.value_ofText]
  rfl

section

variable {α β : Type} {field : Field α} {rest : Fields β}

/-- The slots of some fields behind that of another one. -/
def slotBefore (slot : Option α) (others : rest.Slots) : (Fields.cons field rest).Slots :=
  (slot, others)

theorem readMember_cons_of_ne {key : String} (other : field.name ≠ key) (value : Doc)
    (slot : Option α) (others : rest.Slots) :
    (Fields.cons field rest).readMember key value (slotBefore slot others)
      = (rest.readMember key value others).map (Option.map (slotBefore slot)) := by
  rw [readMember.eq_def]
  exact if_neg other

theorem readMember_cons_self {value : Doc} {a : α} (read : field.codec.read value = .ok a)
    (others : rest.Slots) :
    (Fields.cons field rest).readMember field.name value (slotBefore none others)
      = .ok (some (slotBefore (some a) others)) := by
  rw [readMember.eq_def]
  refine (if_pos rfl).trans ?_
  show (field.codec.read value).map _ = _
  rw [read]
  rfl

/-- Members of other names leave the slot of a field alone. -/
theorem readMembers_cons_of_others (slot : Option α) {members : List (String × Doc)}
    (other : field.name ∉ members.map (·.1)) (others : rest.Slots) :
    (Fields.cons field rest).readMembers (slotBefore slot others) (membersOf members)
      = (rest.readMembers others (membersOf members)).map (slotBefore slot) := by
  induction members generalizing others with
  | nil => rfl
  | cons m members ih =>
    obtain ⟨apart, other⟩ := not_or.1 (mt List.mem_cons.2 other)
    show (Fields.cons field rest).readMembers (slotBefore slot others)
        (.member (.ofText m.1) m.2 (membersOf members))
      = (rest.readMembers others (.member (.ofText m.1) m.2 (membersOf members))).map _
    rw [readMembers_member, readMembers_member, readMember_cons_of_ne apart]
    cases rest.readMember m.1 m.2 others with
    | error e => rfl
    | ok read =>
      cases read with
      | some others => exact ih other others
      | none =>
        show (m.2.skip.bind fun _ => _) = (m.2.skip.bind fun _ => _).map _
        cases m.2.skip with
        | error e => rfl
        | ok _ => exact ih other others

end

/-- Reading the members that were written fills the slot of every field. -/
theorem readMembers_write {β : Type} {fs : Fields β} (distinct : fs.names.Nodup) {b : β}
    (h : fs.Keeps b) : fs.readMembers fs.noSlots (membersOf (fs.write b)) = .ok (fs.filled b) := by
  induction fs with
  | nil => rfl
  | cons field rest ih =>
    obtain ⟨a, b⟩ := b
    obtain ⟨fresh, distinct⟩ := List.nodup_cons.1 distinct
    have other : field.name ∉ (rest.write b).map (·.1) := by
      rw [keys_write]
      exact fresh
    show (Fields.cons field rest).readMembers (slotBefore none rest.noSlots)
      (.member (.ofText field.name) (field.codec.write a) (membersOf (rest.write b))) = _
    rw [readMembers_member, readMember_cons_self h.1.read]
    show (Fields.cons field rest).readMembers (slotBefore (some a) rest.noSlots)
      (membersOf (rest.write b)) = _
    rw [readMembers_cons_of_others _ other, ih distinct h.2]
    rfl

end Fields

/-- **A record is kept** if its fields are, which have different names. -/
theorem Codec.record_keeps {β : Type} {name : String} {fs : Fields β} {b : β}
    (distinct : fs.names.Nodup) (h : fs.Keeps b) : (record name fs).Keeps b where
  written := written_ofMembers (Fields.written_write h)
  read := by
    show (fs.readMembers fs.noSlots (Fields.membersOf (fs.write b))).bind fs.fillIn = .ok b
    rw [Fields.readMembers_write distinct h]
    exact fs.fillIn_filled b

/-! ## Choices -/

/-- A choice is kept if its variant is found under the name that is written, and reads the value
that is written. -/
theorem Codec.tagged_keeps {α : Type} {variants : List (Variant α)} {write : α → String × Doc}
    {a : α} {variant : Variant α} (found : variants.find? (·.name = (write a).1) = some variant)
    (written : (write a).2.Written) (read : variant.read (write a).2 = .ok a) :
    (tagged variants write).Keeps a where
  written := written_ofMembers (by simpa using written)
  read := by
    simp [tagged, Doc.ofMembers, readChoice, liftFault, Except.mapError, tagged.find, found, read,
      Members.close, bind, Except.bind, pure, Except.pure]

end Json

end Conveyor
