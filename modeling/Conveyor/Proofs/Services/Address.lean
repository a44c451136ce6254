import Conveyor.Services.Archive

/-!
# Addresses of versions

The archive builds the address of a file out of texts that it is given, and these may hold slashes
and whole addresses.  Still no two versions have the same address, as long as their names can be
told from everything else that stands in one: a name that holds no slash is a segment of the
address, and if it is neither one of the fixed words nor part of a text that was given, it is that
of the version.

* `Locator.segments_append`, `Locator.infix_of_mem_segments` — the parts between slashes.
* `Locator.segments_render` — those of an address.
* `Telltale` — a name that stands out among given texts.
* **`Locator.version_eq_of_render_eq`** — an address tells the name of its version.
-/

namespace Conveyor

namespace Locator

/-! ## Segments -/

theorem segments_ne_nil (cs : List Char) : segments cs ≠ [] := by
  cases cs with
  | nil => exact List.cons_ne_nil _ _
  | cons c cs =>
    rw [segments]
    split
    · exact List.cons_ne_nil _ _
    · split <;> exact List.cons_ne_nil _ _

/-- A character that is no slash belongs to the first segment. -/
theorem segments_cons_of_ne {c : Char} (h : c ≠ '/') (cs : List Char) :
    ∃ first rest, segments cs = first :: rest ∧ segments (c :: cs) = (c :: first) :: rest := by
  obtain ⟨first, rest, parts⟩ := List.exists_cons_of_ne_nil (segments_ne_nil cs)
  refine ⟨first, rest, parts, ?_⟩
  rw [segments, if_neg h, parts]

/-- **A slash separates** the segments before it from those behind it. -/
theorem segments_append (before after : List Char) :
    segments (before ++ '/' :: after) = segments before ++ segments after := by
  induction before with
  | nil => rfl
  | cons c before ih =>
    by_cases slash : c = '/'
    · rw [List.cons_append, segments, if_pos slash, ih, segments, if_pos slash, List.cons_append]
    · obtain ⟨first, rest, parts, whole⟩ := segments_cons_of_ne slash before
      obtain ⟨first', rest', parts', whole'⟩ := segments_cons_of_ne slash (before ++ '/' :: after)
      rw [ih, parts, List.cons_append] at parts'
      obtain ⟨rfl, rfl⟩ := List.cons.inj parts'
      rw [List.cons_append, whole', whole, List.cons_append]

theorem segments_of_slashless {cs : List Char} (h : '/' ∉ cs) : segments cs = [cs] := by
  induction cs with
  | nil => rfl
  | cons c cs ih =>
    obtain ⟨apart, rest⟩ := not_or.1 (mt List.mem_cons.2 h)
    rw [segments, if_neg (Ne.symm apart), ih rest]

/-- The first segment begins the text. -/
theorem prefix_of_segments_eq_cons {cs first : List Char} {rest : List (List Char)}
    (h : segments cs = first :: rest) : first <+: cs := by
  induction cs generalizing first rest with
  | nil =>
    cases h
    exact List.nil_prefix
  | cons c cs ih =>
    by_cases slash : c = '/'
    · rw [segments, if_pos slash] at h
      cases h
      exact List.nil_prefix
    · obtain ⟨first', rest', parts, whole⟩ := segments_cons_of_ne slash cs
      rw [whole] at h
      cases h
      exact List.cons_prefix_cons.2 ⟨rfl, ih parts⟩

/-- Every segment stands in the text. -/
theorem infix_of_mem_segments {s cs : List Char} (h : s ∈ segments cs) : s <:+: cs := by
  induction cs with
  | nil =>
    cases List.mem_singleton.1 h
    exact List.nil_infix
  | cons c cs ih =>
    have within : cs <:+: c :: cs := (List.suffix_cons c cs).isInfix
    by_cases slash : c = '/'
    · rw [segments, if_pos slash] at h
      rcases List.mem_cons.1 h with rfl | mem
      · exact List.nil_infix
      · exact (ih mem).trans within
    · obtain ⟨first, rest, parts, whole⟩ := segments_cons_of_ne slash cs
      rw [parts] at ih
      rw [whole] at h
      rcases List.mem_cons.1 h with rfl | mem
      · exact (prefix_of_segments_eq_cons whole).isInfix
      · exact (ih (List.mem_cons_of_mem _ mem)).trans within

/-! ## Addresses -/

/-- The words that stand in every address. -/
def words : List String := ["records", "representations", "versions", "files"]

theorem segments_render (l : Locator) :
    segments l.render.toList
      = segments l.base.toList ++ "records".toList :: (segments l.record.toList ++
          "representations".toList :: (segments l.representation.toList ++
          "versions".toList :: (segments l.version.toList ++
          "files".toList :: segments l.file.toList))) := by
  have text : l.render.toList = l.base.toList ++ '/' :: ("records".toList ++ '/' ::
      (l.record.toList ++ '/' :: ("representations".toList ++ '/' ::
      (l.representation.toList ++ '/' :: ("versions".toList ++ '/' ::
      (l.version.toList ++ '/' :: ("files".toList ++ '/' :: l.file.toList))))))) := by
    simp [render]
  have word : ∀ w ∈ words, segments w.toList = [w.toList] := by
    intro w mem
    refine segments_of_slashless ?_
    revert w
    decide
  rw [text]
  simp only [segments_append, word "records" (by decide), word "representations" (by decide),
    word "versions" (by decide), word "files" (by decide), List.singleton_append]

end Locator

/-- A name that stands out among texts: a single segment of an address, no word of addresses, and no
part of any of the texts. -/
structure Telltale (name : String) (texts : List String) : Prop where
  slashless : '/' ∉ name.toList
  apart : name ∉ Locator.words
  strange : ∀ text ∈ texts, ¬ name.toList <:+: text.toList

/-- A name that stands out beside a base stands out beside the base of an archive. -/
theorem Telltale.withoutSlashes {name base : String} {texts : List String}
    (h : Telltale name (base :: texts)) : Telltale name (Archive.withoutSlashes base :: texts) where
  slashless := h.slashless
  apart := h.apart
  strange text mem := by
    rcases List.mem_cons.1 mem with rfl | mem
    · have shorter : (Archive.withoutSlashes base).toList <+: base.toList := by
        rw [Archive.withoutSlashes, String.toList_ofList, ← List.reverse_suffix,
          List.reverse_reverse]
        exact List.dropWhile_suffix _
      exact fun inside =>
        h.strange base List.mem_cons_self (inside.trans shorter.isInfix)
    · exact h.strange text (List.mem_cons_of_mem _ mem)

namespace Locator

/-- **An address tells the name of its version**, if that stands out among the other parts of any
address that is the same. -/
theorem version_eq_of_render_eq {l l' : Locator} (same : l.render = l'.render)
    (telling : Telltale l.version [l'.base, l'.record, l'.representation, l'.file])
    (slashless : '/' ∉ l'.version.toList) : l.version = l'.version := by
  have segment : l.version.toList ∈ segments l'.render.toList := by
    rw [← same, segments_render, segments_of_slashless telling.slashless]
    simp
  have elsewhere : ∀ text ∈ [l'.base, l'.record, l'.representation, l'.file],
      l.version.toList ∉ segments text.toList := fun text mem part =>
    telling.strange text mem (infix_of_mem_segments part)
  have word : ∀ w ∈ words, l.version.toList ≠ w.toList := fun w mem same =>
    telling.apart (String.toList_inj.1 same ▸ mem)
  rw [segments_render, segments_of_slashless slashless] at segment
  simp only [List.mem_append, List.mem_cons, List.not_mem_nil, or_false] at segment
  rcases segment with h | h | h | h | h | h | h | h | h
  · exact absurd h (elsewhere _ (by simp))
  · exact absurd h (word _ (by decide))
  · exact absurd h (elsewhere _ (by simp))
  · exact absurd h (word _ (by decide))
  · exact absurd h (elsewhere _ (by simp))
  · exact absurd h (word _ (by decide))
  · exact String.toList_inj.1 h
  · exact absurd h (word _ (by decide))
  · exact absurd h (elsewhere _ (by simp))

end Locator

end Conveyor
