import Conveyor.Proofs.Services.Address
import Mathlib.Data.List.Infix

/-!
# Locators and their texts

A text is read as a locator from the right: its last `/records/` ends the base, and what stands
behind it must be seven segments, three of them fixed words and four of them names.  What is read is
always what the text says.  The other way round a name can be mistaken for the end of the base: the
text of a locator whose record, representation or version is called `records` has a `/records/`
further to the right, with too few segments behind it, and is not read at all.

* `Locator.splitLast?_eq_some_iff` — the last place of a separator is one behind which none begins.
* `Locator.between_slashes_iff` — what stands between slashes in a text is an inner segment of it.
* `Locator.splitLast?_records_iff` — where the base of a text ends.
* `Locator.WellFormed`, `Locator.Misleading` — names that are single segments; a name that is
  mistaken.
* **`Locator.parse?_eq_some_iff`** — which texts are read as a locator.
* **`Locator.parse?_render`** — what the text of a locator is read as.
* **`Locator.parse?_exact`** — what is read is what the text says.
-/

namespace Conveyor

namespace Locator

/-! ## The last place of a separator -/

section

variable {separator text before after : List Char} {c : Char}

theorem splitLast?_of_later (h : splitLast? separator text = some (before, after)) :
    splitLast? separator (c :: text) = some (c :: before, after) := by
  rw [splitLast?, h]

theorem splitLast?_of_here (none : splitLast? separator text = none)
    (here : c :: text = separator ++ after) :
    splitLast? separator (c :: text) = some ([], after) := by
  have begins : separator.isPrefixOf (c :: text) = true :=
    List.isPrefixOf_iff_prefix.2 (here ▸ List.prefix_append separator after)
  rw [splitLast?, none]
  simp only [begins, if_true]
  rw [here, List.drop_left]

/-- A text splits where one without its first character does, or at its beginning. -/
theorem splitLast?_cons (h : splitLast? separator (c :: text) = some (before, after)) :
    (∃ before', before = c :: before' ∧ splitLast? separator text = some (before', after)) ∨
      (before = [] ∧ splitLast? separator text = none ∧ c :: text = separator ++ after) := by
  cases there : splitLast? separator text with
  | some split =>
    rw [splitLast?_of_later there] at h
    cases h
    exact .inl ⟨_, rfl, rfl⟩
  | none =>
    rw [splitLast?, there] at h
    by_cases begins : separator.isPrefixOf (c :: text) = true
    · simp only [begins, if_true, Option.some.injEq, Prod.mk.injEq] at h
      obtain ⟨rfl, rfl⟩ := h
      have here := List.isPrefixOf_iff_prefix.1 begins
      exact .inr ⟨rfl, rfl, (List.prefix_iff_eq_append.1 here).symm⟩
    · simp [begins] at h

theorem splitLast?_eq_none_iff : splitLast? separator text = none ↔ ¬ separator <:+: text := by
  induction text with
  | nil => simp [splitLast?]
  | cons c text ih =>
    rw [splitLast?, List.infix_cons_iff, not_or, ← ih]
    cases there : splitLast? separator text with
    | some split => simp
    | none => simp [List.isPrefixOf_iff_prefix]

/-- **The last place of a separator** in a text is one behind which no separator begins. -/
theorem splitLast?_eq_some_iff :
    splitLast? (c :: separator) text = some (before, after) ↔
      text = before ++ (c :: separator ++ after) ∧ ¬ c :: separator <:+: separator ++ after := by
  constructor
  · intro h
    induction text generalizing before with
    | nil => cases h
    | cons d text ih =>
      rcases splitLast?_cons h with ⟨before, rfl, there⟩ | ⟨rfl, none, here⟩
      · obtain ⟨rfl, last⟩ := ih there
        exact ⟨rfl, last⟩
      · obtain ⟨rfl, rfl⟩ := List.cons.inj here
        exact ⟨rfl, splitLast?_eq_none_iff.1 none⟩
  · rintro ⟨rfl, last⟩
    induction before with
    | nil => exact splitLast?_of_here (splitLast?_eq_none_iff.2 last) rfl
    | cons d before ih => exact splitLast?_of_later ih

end

/-! ## Segments -/

theorem segments_eq_splitOn (cs : List Char) : segments cs = cs.splitOn '/' := by
  induction cs with
  | nil => rfl
  | cons c cs ih =>
    rw [List.splitOn_cons_eq_if_modifyHead, ← ih]
    by_cases slash : c = '/'
    · rw [segments, if_pos slash, if_pos (by simpa using slash)]
    · obtain ⟨first, rest, parts, whole⟩ := segments_cons_of_ne slash cs
      rw [whole, parts, if_neg (by simpa using slash), List.modifyHead_cons]

/-- A text is its segments with slashes between them. -/
theorem intercalate_segments (cs : List Char) : ['/'].intercalate (segments cs) = cs := by
  rw [segments_eq_splitOn, List.intercalate_splitOn]

theorem intercalate_append {α : Type} {separator : List α} {parts parts' : List (List α)}
    (some : parts ≠ []) (some' : parts' ≠ []) :
    separator.intercalate (parts ++ parts')
      = separator.intercalate parts ++ separator ++ separator.intercalate parts' := by
  induction parts with
  | nil => exact absurd rfl some
  | cons part parts ih =>
    by_cases single : parts = []
    · rw [single, List.singleton_append, List.intercalate_cons_of_ne_nil some',
        List.intercalate_singleton]
    · rw [List.cons_append, List.intercalate_cons_of_ne_nil (by simp [single]),
        List.intercalate_cons_of_ne_nil single, ih single]
      simp only [List.append_assoc]

theorem slashless_of_mem_segments {s cs : List Char} (h : s ∈ segments cs) : '/' ∉ s := by
  induction cs generalizing s with
  | nil =>
    cases List.mem_singleton.1 h
    exact List.not_mem_nil
  | cons c cs ih =>
    by_cases slash : c = '/'
    · rw [segments, if_pos slash] at h
      rcases List.mem_cons.1 h with rfl | mem
      · exact List.not_mem_nil
      · exact ih mem
    · obtain ⟨first, rest, parts, whole⟩ := segments_cons_of_ne slash cs
      rw [parts] at ih
      rw [whole] at h
      rcases List.mem_cons.1 h with rfl | mem
      · rw [List.mem_cons, not_or]
        exact ⟨Ne.symm slash, ih List.mem_cons_self⟩
      · exact ih (List.mem_cons_of_mem _ mem)

/-- **What stands between slashes** in a text, and has none itself, is a segment of the text that is
neither its first nor its last. -/
theorem between_slashes_iff {word cs : List Char} (slashless : '/' ∉ word) :
    '/' :: (word ++ ['/']) <:+: cs ↔ word ∈ (segments cs).tail.dropLast := by
  constructor
  · rintro ⟨before, after, rfl⟩
    obtain ⟨first, rest, parts⟩ := List.exists_cons_of_ne_nil (segments_ne_nil before)
    have whole : segments (before ++ '/' :: (word ++ ['/']) ++ after)
        = first :: (rest ++ word :: segments after) := by
      rw [List.append_assoc, List.cons_append, List.append_assoc, segments_append,
        List.singleton_append, segments_append, segments_of_slashless slashless, parts]
      rfl
    rw [whole, List.tail_cons, List.dropLast_append_of_ne_nil (List.cons_ne_nil _ _),
      List.dropLast_cons_of_ne_nil (segments_ne_nil after)]
    exact List.mem_append_right _ List.mem_cons_self
  · intro inner
    obtain ⟨first, rest, parts⟩ := List.exists_cons_of_ne_nil (segments_ne_nil cs)
    rw [parts, List.tail_cons] at inner
    rcases List.eq_nil_or_concat rest with rfl | ⟨middle, last, rfl⟩
    · cases inner
    · rw [List.concat_eq_append] at parts inner
      rw [List.dropLast_concat] at inner
      obtain ⟨before, after, rfl⟩ := List.append_of_mem inner
      have parts : segments cs = (first :: before) ++ ([word] ++ (after ++ [last])) := by
        simp [parts]
      rw [← intercalate_segments cs, parts, intercalate_append (by simp) (by simp),
        intercalate_append (by simp) (by simp), List.intercalate_singleton]
      exact ⟨['/'].intercalate (first :: before), ['/'].intercalate (after ++ [last]), by simp⟩

/-! ## The end of the base -/

theorem separator_eq : "/records/".toList = '/' :: ("records".toList ++ ['/']) := by decide

theorem segments_records (path : List Char) :
    segments ("records".toList ++ ['/'] ++ path) = "records".toList :: segments path := by
  have slashless : '/' ∉ "records".toList := by decide
  rw [List.append_assoc, List.singleton_append, segments_append, segments_of_slashless slashless,
    List.singleton_append]

/-- **The base of a text ends** at a `/records/` behind which no segment but the last is called
`records`. -/
theorem splitLast?_records_iff {text base path : List Char} :
    splitLast? "/records/".toList text = some (base, path) ↔
      text = base ++ ("/records/".toList ++ path) ∧
        "records".toList ∉ (segments path).dropLast := by
  have slashless : '/' ∉ "records".toList := by decide
  rw [separator_eq, splitLast?_eq_some_iff, between_slashes_iff slashless, segments_records,
    List.tail_cons]

/-! ## Well-formed locators -/

/-- A text can be a name in a locator: it is a single segment. -/
def IsName (s : String) : Prop := s ≠ "" ∧ '/' ∉ s.toList

/-- The names of a locator are single segments. -/
structure WellFormed (l : Locator) : Prop where
  record : IsName l.record
  representation : IsName l.representation
  version : IsName l.version
  file : IsName l.file

/-- What stands in the text of a locator behind the `/records/` that ends the base. -/
def path (l : Locator) : List Char :=
  l.record.toList ++ '/' :: ("representations".toList ++ '/' :: (l.representation.toList ++ '/' ::
    ("versions".toList ++ '/' :: (l.version.toList ++ '/' ::
      ("files".toList ++ '/' :: l.file.toList)))))

theorem toList_render (l : Locator) :
    l.render.toList = l.base.toList ++ ("/records/".toList ++ l.path) := by
  simp [render, path]

/-- The segments behind the base. -/
def pathSegments (l : Locator) : List String :=
  [l.record, "representations", l.representation, "versions", l.version, "files", l.file]

section

variable {l l' : Locator}

theorem slashless_pathSegments (h : l.WellFormed) : ∀ s ∈ l.pathSegments, '/' ∉ s.toList := by
  have words : ∀ s ∈ ["representations", "versions", "files"], '/' ∉ s.toList := by decide
  simp only [pathSegments, List.forall_mem_cons] at words ⊢
  exact ⟨h.record.2, words.1, h.representation.2, words.2.1, h.version.2, words.2.2.1, h.file.2,
    words.2.2.2⟩

theorem intercalate_pathSegments (l : Locator) :
    ['/'].intercalate (l.pathSegments.map String.toList) = l.path := by
  simp [pathSegments, path, List.intercalate_cons_cons]

theorem segments_path (h : l.WellFormed) : segments l.path = l.pathSegments.map String.toList := by
  have single : ∀ s ∈ l.pathSegments, segments s.toList = [s.toList] := fun s mem =>
    segments_of_slashless (slashless_pathSegments h s mem)
  simp only [pathSegments, List.forall_mem_cons] at single
  obtain ⟨record, representations, representation, versions, version, files, file, -⟩ := single
  simp only [path, segments_append, record, representations, representation, versions, version,
    files, file, pathSegments, List.map_cons, List.map_nil, List.singleton_append]

/-- **The text of a well-formed locator tells the locator.** -/
theorem eq_of_render_eq (h : l.WellFormed) (h' : l'.WellFormed) (same : l.render = l'.render) :
    l = l' := by
  have texts := congrArg String.toList same
  rw [toList_render, toList_render] at texts
  have parts := congrArg segments texts
  rw [separator_eq, List.cons_append, List.cons_append, segments_append, segments_append,
    segments_records, segments_records, segments_path h, segments_path h'] at parts
  obtain ⟨bases, paths⟩ := List.append_inj' parts rfl
  have base : l.base.toList = l'.base.toList := by
    rw [← intercalate_segments l.base.toList, bases, intercalate_segments]
  have names : l.pathSegments = l'.pathSegments :=
    List.map_injective_iff.2 (fun _ _ => String.toList_inj.1) (List.cons.inj paths).2
  simp only [pathSegments, List.cons.injEq, true_and, and_true] at names
  obtain ⟨record, representation, version, file⟩ := names
  obtain ⟨b, r, n, v, f⟩ := l
  obtain ⟨b', r', n', v', f'⟩ := l'
  rw [mk.injEq]
  exact ⟨String.toList_inj.1 base, record, representation, version, file⟩

/-- A name with a slash behind it is the word that ends a base. -/
def Misleading (l : Locator) : Prop := "records" ∈ [l.record, l.representation, l.version]

instance (l : Locator) : Decidable l.Misleading := inferInstanceAs (Decidable (_ ∈ _))

/-- In the path of a well-formed locator no segment but the last is called `records`, unless a name
misleads. -/
theorem misleading_iff (h : l.WellFormed) :
    l.Misleading ↔ "records".toList ∈ (segments l.path).dropLast := by
  have inner : (segments l.path).dropLast = (l.pathSegments.dropLast).map String.toList := by
    rw [segments_path h, List.map_dropLast]
  rw [inner, List.mem_map_of_injective fun _ _ => String.toList_inj.1]
  simp [Misleading, pathSegments]

/-- A path with the segments of a locator is its path, and the names in it have no slashes. -/
theorem eq_path_of_segments {path : List Char}
    (parts : (segments path).map String.ofList = l.pathSegments) :
    path = l.path ∧ ∀ name ∈ l.pathSegments, '/' ∉ name.toList := by
  have texts : segments path = l.pathSegments.map String.toList := by
    rw [← parts, List.map_map]
    simp [Function.comp_def]
  constructor
  · rw [← intercalate_segments path, texts, intercalate_pathSegments]
  · intro name mem
    have segment : name.toList ∈ segments path := texts ▸ List.mem_map_of_mem mem
    exact slashless_of_mem_segments segment

/-- **What was read out of a text** stands there: a base, and the path of a well-formed locator. -/
theorem split_of_parse? {text : String} (h : parse? text = some l) :
    l.WellFormed ∧ splitLast? "/records/".toList text.toList = some (l.base.toList, l.path) := by
  rw [parse?] at h
  split at h
  · cases h
  · rename_i base path split
    split at h
    · rename_i record representation version file parts
      split at h
      · rename_i named
        obtain rfl := Option.some.inj h
        obtain ⟨rfl, slashless⟩ := eq_path_of_segments
          (l := ⟨String.ofList base, record, representation, version, file⟩) parts
        simp only [pathSegments, List.forall_mem_cons] at slashless
        obtain ⟨inRecord, -, inRepresentation, -, inVersion, -, inFile, -⟩ := slashless
        refine ⟨⟨⟨named.1, inRecord⟩, ⟨named.2.1, inRepresentation⟩, ⟨named.2.2.1, inVersion⟩,
          ⟨named.2.2.2, inFile⟩⟩, ?_⟩
        rw [split, String.toList_ofList]
      · cases h
    · cases h

/-- **A locator is read** where a text has its base and its path. -/
theorem parse?_of_split {text : String}
    (split : splitLast? "/records/".toList text.toList = some (l.base.toList, l.path))
    (h : l.WellFormed) : parse? text = some l := by
  have names : l.record ≠ "" ∧ l.representation ≠ "" ∧ l.version ≠ "" ∧ l.file ≠ "" :=
    ⟨h.record.1, h.representation.1, h.version.1, h.file.1⟩
  have parts : (segments l.path).map String.ofList = l.pathSegments := by
    rw [segments_path h, List.map_map]
    simp [Function.comp_def]
  rw [parse?, split]
  simp only [parts, pathSegments]
  rw [if_pos names, String.ofList_toList]

/-- **Which texts are read as a locator**: the text of one that is well-formed and does not
mislead. -/
theorem parse?_eq_some_iff {text : String} :
    parse? text = some l ↔ l.render = text ∧ l.WellFormed ∧ ¬ l.Misleading := by
  constructor
  · intro h
    obtain ⟨wellFormed, split⟩ := split_of_parse? h
    obtain ⟨whole, last⟩ := splitLast?_records_iff.1 split
    refine ⟨String.toList_inj.1 ?_, wellFormed, mt (misleading_iff wellFormed).1 last⟩
    rw [toList_render, whole]
  · rintro ⟨rfl, wellFormed, clear⟩
    refine parse?_of_split (splitLast?_records_iff.2 ⟨toList_render l, ?_⟩) wellFormed
    exact mt (misleading_iff wellFormed).2 clear

end

/-! ## Reading what was written -/

/-- **What the text of a locator is read as**: the locator, unless a name misleads; then nothing is
read at all. -/
theorem parse?_render {l : Locator} (h : l.WellFormed) :
    parse? l.render = if l.Misleading then none else some l := by
  by_cases misleading : l.Misleading
  · rw [if_pos misleading]
    cases read : parse? l.render with
    | none => rfl
    | some l' =>
      obtain ⟨same, wellFormed, clear⟩ := parse?_eq_some_iff.1 read
      exact absurd (eq_of_render_eq wellFormed h same ▸ misleading) clear
  · rw [if_neg misleading]
    exact parse?_eq_some_iff.2 ⟨rfl, h, misleading⟩

/-- A locator full of the words that stand in locators, and with a `/records/` in its base. -/
def wordyLocator : Locator :=
  ⟨"http://store//records/", "versions", "representations", "files", "records"⟩

theorem parse?_render_wordy :
    wordyLocator.WellFormed ∧ ¬ wordyLocator.Misleading ∧
      parse? wordyLocator.render = if wordyLocator.Misleading then none else some wordyLocator :=
  have wellFormed : wordyLocator.WellFormed :=
    ⟨⟨by decide, by decide⟩, ⟨by decide, by decide⟩, ⟨by decide, by decide⟩, ⟨by decide, by decide⟩⟩
  ⟨wellFormed, by decide, parse?_render wellFormed⟩

/-- **A locator whose text is not read**: its record is called `records`. -/
theorem parse?_render_records :
    WellFormed ⟨"http://store", "records", "raw", "1", "text"⟩ ∧
      parse? (render ⟨"http://store", "records", "raw", "1", "text"⟩) = none :=
  ⟨⟨⟨by decide, by decide⟩, ⟨by decide, by decide⟩, ⟨by decide, by decide⟩, ⟨by decide, by decide⟩⟩,
    by decide +kernel⟩

/-! ## Reading any text -/

/-- **What is read is what the text says**, to the letter: so no two texts are read as the same
locator. -/
theorem parse?_exact {text : String} {l : Locator} (h : parse? text = some l) :
    l.render = text ∧ l.WellFormed ∧ ∀ other, parse? other = some l → other = text := by
  obtain ⟨whole, wellFormed, -⟩ := parse?_eq_some_iff.1 h
  refine ⟨whole, wellFormed, fun other read => ?_⟩
  rw [← (parse?_eq_some_iff.1 read).1, whole]

/-- A text in which `/records/` overlaps itself, and whose base has a segment without characters. -/
theorem parse?_exact_overlapping :
    parse? "//records/records/a/representations/b/versions/c/files/d"
        = some ⟨"//records", "a", "b", "c", "d"⟩ ∧
      render ⟨"//records", "a", "b", "c", "d"⟩
        = "//records/records/a/representations/b/versions/c/files/d" ∧
      WellFormed ⟨"//records", "a", "b", "c", "d"⟩ ∧
      ∀ other, parse? other = some ⟨"//records", "a", "b", "c", "d"⟩ →
        other = "//records/records/a/representations/b/versions/c/files/d" :=
  have read : parse? "//records/records/a/representations/b/versions/c/files/d"
      = some ⟨"//records", "a", "b", "c", "d"⟩ := by decide +kernel
  ⟨read, parse?_exact read⟩

end Locator

end Conveyor
