/-!
# Dictionaries

A finite map from texts to values, kept as its entries in strictly increasing key order.  The
order makes the representation canonical: two dictionaries with the same look-ups are equal, and
listing one is listing it sorted.

* `Dict β` — the type; `Dict.get?`, `Dict.insert`, `Dict.erase`, `Dict.ofList`, `Dict.keys`.
* `Dict.get?_insert`, `Dict.get?_erase` — what a look-up finds after a change.
* `Dict.ext_get?` — a dictionary is determined by its look-ups.
-/

namespace Conveyor

/-- A finite map from texts to values of `β`, as entries in increasing key order. -/
structure Dict (β : Type) where
  entries : List (String × β)
  sorted : entries.Pairwise (fun a b => a.1 < b.1)

namespace Dict

variable {β γ : Type}

instance [DecidableEq β] : DecidableEq (Dict β) := fun a b =>
  decidable_of_iff (a.entries = b.entries)
    ⟨fun h => by cases a; cases b; simp_all, fun h => by rw [h]⟩

def empty : Dict β := ⟨[], .nil⟩

instance : EmptyCollection (Dict β) := ⟨empty⟩
instance : Inhabited (Dict β) := ⟨empty⟩

def keys (d : Dict β) : List String := d.entries.map (·.1)

/-! ## Look-up and change on the entries -/

/-- The value under a key, by search. -/
def lookup (key : String) : List (String × β) → Option β
  | [] => none
  | (k, v) :: rest => if k = key then some v else lookup key rest

/-- Puts an entry at its place, over the entry of the same key if there is one. -/
def place (key : String) (value : β) : List (String × β) → List (String × β)
  | [] => [(key, value)]
  | (k, v) :: rest =>
      if key < k then (key, value) :: (k, v) :: rest
      else if k < key then (k, v) :: place key value rest
      else (key, value) :: rest

private theorem eq_of_not_lt {a b : String} (h₁ : ¬ a < b) (h₂ : ¬ b < a) : a = b :=
  String.le_antisymm (String.not_lt.1 h₂) (String.not_lt.1 h₁)

theorem mem_place {key : String} {value : β} {entries : List (String × β)} {e : String × β}
    (h : e ∈ place key value entries) : e = (key, value) ∨ e ∈ entries := by
  induction entries with
  | nil => simpa [place] using h
  | cons entry rest ih =>
    obtain ⟨k, v⟩ := entry
    unfold place at h
    split at h
    · simpa using h
    · split at h
      · rcases List.mem_cons.1 h with h | h
        · exact .inr (by simp [h])
        · rcases ih h with h | h
          · exact .inl h
          · exact .inr (by simp [h])
      · rcases List.mem_cons.1 h with h | h
        · exact .inl h
        · exact .inr (by simp [h])

theorem sorted_place {key : String} {value : β} {entries : List (String × β)}
    (h : entries.Pairwise (fun a b => a.1 < b.1)) :
    (place key value entries).Pairwise (fun a b => a.1 < b.1) := by
  induction entries with
  | nil => simp [place]
  | cons entry rest ih =>
    obtain ⟨k, v⟩ := entry
    obtain ⟨head, tail⟩ := List.pairwise_cons.1 h
    unfold place
    split
    · rename_i lt
      refine List.pairwise_cons.2 ⟨fun e he => ?_, h⟩
      rcases List.mem_cons.1 he with rfl | he
      · exact lt
      · exact String.lt_trans lt (head e he)
    · split
      · rename_i lt
        refine List.pairwise_cons.2 ⟨fun e he => ?_, ih tail⟩
        rcases mem_place he with rfl | he
        · exact lt
        · exact head e he
      · rename_i h₁ h₂
        obtain rfl : key = k := eq_of_not_lt h₁ h₂
        exact List.pairwise_cons.2 ⟨head, tail⟩

theorem lookup_place (key k : String) (value : β) (entries : List (String × β)) :
    lookup k (place key value entries) = if key = k then some value else lookup k entries := by
  induction entries with
  | nil => simp [place, lookup]
  | cons entry rest ih =>
    obtain ⟨k', v⟩ := entry
    unfold place
    split
    · simp [lookup]
    · split
      · rename_i lt
        by_cases hk : k' = k
        · subst hk
          have : key ≠ k' := fun e => by subst e; exact String.lt_irrefl _ lt
          simp [lookup, this]
        · simp [lookup, hk, ih]
      · rename_i h₁ h₂
        obtain rfl : key = k' := eq_of_not_lt h₁ h₂
        by_cases hk : key = k <;> simp [lookup, hk]

theorem lookup_eq_none_of_lt {k : String} {entries : List (String × β)}
    (h : ∀ e ∈ entries, k < e.1) : lookup k entries = none := by
  induction entries with
  | nil => rfl
  | cons entry rest ih =>
    have head := h entry (by simp)
    have : entry.1 ≠ k := fun e => by rw [e] at head; exact String.lt_irrefl _ head
    simp [lookup, this, ih (fun e he => h e (by simp [he]))]

/-! ## The operations -/

def get? (d : Dict β) (key : String) : Option β := lookup key d.entries

def contains (d : Dict β) (key : String) : Bool := (d.get? key).isSome

def insert (d : Dict β) (key : String) (value : β) : Dict β :=
  ⟨place key value d.entries, sorted_place d.sorted⟩

def erase (d : Dict β) (key : String) : Dict β :=
  ⟨d.entries.filter (fun e => e.1 ≠ key), d.sorted.filter _⟩

/-- The dictionary of a list of entries; a repeated key keeps its last value. -/
def ofList (entries : List (String × β)) : Dict β :=
  entries.foldl (fun d e => d.insert e.1 e.2) empty

/-! ## Laws -/

@[simp] theorem get?_empty (key : String) : (empty : Dict β).get? key = none := rfl

/-- **A look-up after an insertion** finds the new value under its key and the old one elsewhere. -/
@[simp] theorem get?_insert (d : Dict β) (key k : String) (value : β) :
    (d.insert key value).get? k = if key = k then some value else d.get? k :=
  lookup_place key k value d.entries

/-- **A look-up after a removal** finds nothing under the removed key and the old value elsewhere. -/
@[simp] theorem get?_erase (d : Dict β) (key k : String) :
    (d.erase key).get? k = if key = k then none else d.get? k := by
  show lookup k (d.entries.filter _) = if key = k then none else lookup k d.entries
  induction d.entries with
  | nil => simp [lookup]
  | cons entry rest ih =>
    obtain ⟨k', v⟩ := entry
    by_cases h : k' = key
    · subst h
      by_cases hk : k' = k <;> simp_all [lookup]
    · by_cases hk : k' = k
      · subst hk
        have : key ≠ k' := fun e => h e.symm
        simp_all [lookup]
      · simp_all [lookup]

private theorem entries_eq_of_lookup {a b : List (String × β)}
    (ha : a.Pairwise (fun x y => x.1 < y.1)) (hb : b.Pairwise (fun x y => x.1 < y.1))
    (h : ∀ k, lookup k a = lookup k b) : a = b := by
  induction a generalizing b with
  | nil =>
    cases b with
    | nil => rfl
    | cons e rest => simpa [lookup] using h e.1
  | cons x xs ih =>
    cases b with
    | nil => simpa [lookup] using h x.1
    | cons y ys =>
      obtain ⟨hx, hxs⟩ := List.pairwise_cons.1 ha
      obtain ⟨hy, hys⟩ := List.pairwise_cons.1 hb
      have key : x.1 = y.1 := by
        refine eq_of_not_lt (fun lt => ?_) (fun lt => ?_)
        · have none_y : lookup x.1 (y :: ys) = none := lookup_eq_none_of_lt (by
            intro e he
            rcases List.mem_cons.1 he with rfl | he
            · exact lt
            · exact String.lt_trans lt (hy e he))
          have := h x.1
          rw [none_y] at this
          simp [lookup] at this
        · have none_x : lookup y.1 (x :: xs) = none := lookup_eq_none_of_lt (by
            intro e he
            rcases List.mem_cons.1 he with rfl | he
            · exact lt
            · exact String.lt_trans lt (hx e he))
          have := h y.1
          rw [none_x] at this
          simp [lookup] at this
      have value : x.2 = y.2 := by
        have := h x.1
        simpa [lookup, key] using this
      have tail : xs = ys := ih hxs hys (fun k => by
        by_cases hk : x.1 = k
        · subst hk
          rw [lookup_eq_none_of_lt hx, lookup_eq_none_of_lt (fun e he => key ▸ hy e he)]
        · have hk' : y.1 ≠ k := key ▸ hk
          simpa [lookup, hk, hk'] using h k)
      rw [show x = y from Prod.ext key value, tail]

/-- **A dictionary is determined by its look-ups.** -/
theorem ext_get? {a b : Dict β} (h : ∀ key, a.get? key = b.get? key) : a = b := by
  obtain ⟨ea, sa⟩ := a
  obtain ⟨eb, sb⟩ := b
  obtain rfl := entries_eq_of_lookup sa sb h
  rfl

end Dict

/-- A set of texts: a dictionary that says nothing but which keys it has. -/
abbrev TextSet := Dict Unit

namespace TextSet

def add (s : TextSet) (text : String) : TextSet := s.insert text ()

def ofTexts (texts : List String) : TextSet := texts.foldl add Dict.empty

/-- The texts in increasing order of code points, each once. -/
def toTexts (s : TextSet) : List String := s.keys

end TextSet

end Conveyor
