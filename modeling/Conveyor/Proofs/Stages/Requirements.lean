import Conveyor.Stages.Write

/-!
# What a record needs to be stored

A record is stored as a version that it asks for, and it can only ask for one if it has four
things: something that tells which record it is, a representation to write, a provider, and
content.  Of those that it lacks, the first is the one that is complained about.

* `Envelope.recordName?`, `Envelope.fileName` — which record it is, and what its file is called.
* `Envelope.lack?` — the complaint about the first thing that is missing.
* `Envelope.Asks` — what the version of a record says, field by field.
* **`versionOf_of_lack?`**, **`versionOf_of_complete`** — a record either lacks something or asks for
  a version.
* **`Envelope.parameters_written`** — the parameters of a record that was stored.
-/

namespace Conveyor

namespace Envelope

/-- The name of the record: the one it was given, else that of the resource's locator. -/
def recordName? (e : Envelope) : Option String :=
  e.parameter? Parameter.cloudId <|> (Locator.parse? e.resource).map (·.record)

/-- The name of the file: the one it was given, else that of the resource's locator, else the name
of the record. -/
def fileName (e : Envelope) (record : String) : String :=
  (e.parameter? Parameter.fileName <|> (Locator.parse? e.resource).map (·.file)).getD record

/-- What a record needs, in the order in which it is looked for: whether it is there, and the
complaint if it is not. -/
def needs (e : Envelope) : List (Bool × String) :=
  [(e.recordName?.isSome, "Cannot determine the record identifier"),
    ((e.parameter? Parameter.newRepresentationName).isSome, "Output representation name is missing"),
    ((e.parameter? Parameter.providerId).isSome, "Provider id is missing"),
    (e.payload.isSome, "Record has no content to write")]

/-- The complaint about the first thing that a record lacks. -/
def lack? (e : Envelope) : Option String := (e.needs.find? fun need => !need.1).map (·.2)

/-- The version of a record that lacks nothing. -/
def version (e : Envelope) (record representation provider : String) (content : Bytes) :
    NewVersion where
  cloudId := record
  representation := representation
  provider := provider
  dataset := e.parameter? Parameter.outputDataset
  fileName := e.fileName record
  mimeType := (e.parameter? Parameter.outputMimeType).getD standardMimeType
  content := content
  revision := e.revision
  authorization := e.parameter? Parameter.authorization

/-- A record asks for a version. -/
structure Asks (e : Envelope) (v : NewVersion) : Prop where
  record : e.recordName? = some v.cloudId
  representation : e.parameter? Parameter.newRepresentationName = some v.representation
  provider : e.parameter? Parameter.providerId = some v.provider
  content : e.payload = some v.content
  file : v.fileName = e.fileName v.cloudId
  dataset : v.dataset = e.parameter? Parameter.outputDataset
  mimeType : v.mimeType = (e.parameter? Parameter.outputMimeType).getD standardMimeType
  revision : v.revision = e.revision
  authorization : v.authorization = e.parameter? Parameter.authorization

end Envelope

section

variable {e : Envelope}

/-- The version that is asked for, once each thing was looked for. -/
theorem versionOf_eq (e : Envelope) : versionOf e = (do
    let record ← orMissing e.recordName? "Cannot determine the record identifier"
    let representation ← orMissing (e.parameter? Parameter.newRepresentationName)
      "Output representation name is missing"
    let provider ← orMissing (e.parameter? Parameter.providerId) "Provider id is missing"
    let content ← orMissing e.payload "Record has no content to write"
    pure (e.version record representation provider content)) := rfl

/-- **A record that lacks something** is complained about. -/
theorem versionOf_of_lack? {complaint : String} (h : e.lack? = some complaint) :
    versionOf e = .error complaint := by
  rw [versionOf_eq]
  rw [Envelope.lack?, Envelope.needs] at h
  cases record : e.recordName? with
  | none => simp_all [orMissing, bind, Except.bind]
  | some _ =>
  cases representation : e.parameter? Parameter.newRepresentationName with
  | none => simp_all [orMissing, bind, Except.bind]
  | some _ =>
  cases provider : e.parameter? Parameter.providerId with
  | none => simp_all [orMissing, bind, Except.bind]
  | some _ =>
  cases content : e.payload with
  | none => simp_all [orMissing, bind, Except.bind]
  | some _ => simp_all

/-- **A record that lacks nothing** asks for a version. -/
theorem versionOf_of_complete (h : e.lack? = none) : ∃ v, versionOf e = .ok v ∧ e.Asks v := by
  rw [Envelope.lack?, Option.map_eq_none_iff, List.find?_eq_none] at h
  have there : ∀ need ∈ e.needs, need.1 = true := fun need mem => by simpa using h need mem
  simp only [Envelope.needs, List.forall_mem_cons] at there
  obtain ⟨record, representation, provider, content, -⟩ := there
  obtain ⟨record, recordName⟩ := Option.isSome_iff_exists.1 record
  obtain ⟨representation, representationName⟩ := Option.isSome_iff_exists.1 representation
  obtain ⟨provider, providerId⟩ := Option.isSome_iff_exists.1 provider
  obtain ⟨content, payload⟩ := Option.isSome_iff_exists.1 content
  refine ⟨e.version record representation provider content, ?_, recordName, representationName,
    providerId, payload, rfl, rfl, rfl, rfl, rfl⟩
  rw [versionOf_eq, recordName, representationName, providerId, payload]
  rfl

/-- A version that a record is stored as is one that it asks for. -/
theorem asks_of_versionOf {v : NewVersion} (h : versionOf e = .ok v) :
    e.lack? = none ∧ e.Asks v := by
  cases lack : e.lack? with
  | some complaint =>
    rw [versionOf_of_lack? lack] at h
    cases h
  | none =>
    obtain ⟨v', asked, asks⟩ := versionOf_of_complete lack
    rw [asked] at h
    exact ⟨rfl, Except.ok.inj h ▸ asks⟩

end

/-! ## The record that was stored -/

namespace Envelope

theorem get?_foldl_withoutParameter (keys : List String) (e : Envelope) (key : String) :
    (keys.foldl withoutParameter e).parameter? key
      = if key ∈ keys then none else e.parameter? key := by
  induction keys generalizing e with
  | nil => rfl
  | cons gone rest ih =>
    rw [List.foldl_cons, ih]
    by_cases here : gone = key
    · simp [here, parameter?, withoutParameter]
    · simp [here, Ne.symm here, parameter?, withoutParameter]

/-- To take parameters away changes nothing else. -/
theorem foldl_withoutParameter (keys : List String) (e : Envelope) :
    keys.foldl withoutParameter e
      = { e with parameters := (keys.foldl withoutParameter e).parameters } := by
  induction keys generalizing e with
  | nil => rfl
  | cons gone rest ih => exact ih (e.withoutParameter gone)

/-- **The parameters of a record that was stored**: the address of its file, none that says where it
was read from, and all others as they were. -/
theorem parameters_written (e : Envelope) (url key : String) :
    (e.written url).parameter? key
      = if key = Parameter.outputUrl then some url
        else if key ∈ Parameter.transient then none else e.parameter? key := by
  have kept : (e.written url).parameter? key
      = (Parameter.transient.foldl withoutParameter
          (e.withParameter Parameter.outputUrl url)).parameter? key := rfl
  have stays : Parameter.outputUrl ∉ Parameter.transient := by decide
  rw [kept, get?_foldl_withoutParameter]
  by_cases output : key = Parameter.outputUrl
  · rw [output, if_neg stays, if_pos rfl]
    simp [parameter?, withParameter]
  · have other : Parameter.outputUrl ≠ key := Ne.symm output
    simp [output, other, parameter?, withParameter]

/-- Besides, it has no content, and nothing else has changed. -/
theorem written_eq (e : Envelope) (url : String) :
    e.written url = { e with payload := none, parameters := (e.written url).parameters } := by
  rw [written, foldl_withoutParameter]
  rfl

end Envelope

end Conveyor
