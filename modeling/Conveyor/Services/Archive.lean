import Conveyor.Buckets.Basic
import Conveyor.Dict
import Conveyor.Locator
import Conveyor.Services.Basic
import Conveyor.Text.Decimal

/-!
# The archive

A metadata service in memory.  It stores every version under a name of its own, answers the file's
locator, and lists a version that belongs to a dataset and a revision among the versions of those.

* `Archive` — what is stored and listed.
* `Archive.create` — storing a version.
* `Archive.page` — a part of a listing; its token is the number of entries before it.
-/

namespace Conveyor

/-- A stored version and the address of its file. -/
structure StoredVersion where
  representation : Representation
  fileUrl : String
deriving DecidableEq

/-- A listed version, with the dataset and the revision under which it is listed. -/
structure ListedEntry where
  provider : String
  dataset : String
  revision : String
  entry : RevisionEntry
deriving DecidableEq

/-- A metadata service in memory. -/
structure Archive where
  /-- What the addresses of all files begin with. -/
  base : String
  pageSize : Nat
  pageSize_pos : 0 < pageSize
  versions : List StoredVersion
  /-- The content of files by address. -/
  files : Dict Bytes
  listed : List ListedEntry

namespace Archive

/-- A text without the slashes at its end. -/
def withoutSlashes (text : String) : String :=
  String.ofList (text.toList.reverse.dropWhile (· = '/')).reverse

/-- A page size is positive once it is raised to one. -/
theorem max_one_pos (n : Nat) : 0 < max 1 n := Nat.lt_of_lt_of_le Nat.one_pos (Nat.le_max_left ..)

/-- An archive without versions.  A page holds at least one entry. -/
def new (base : String) (pageSize : Nat) : Archive where
  base := withoutSlashes base
  pageSize := max 1 pageSize
  pageSize_pos := max_one_pos pageSize
  versions := []
  files := Dict.empty
  listed := []

/-- The address of the file of a version. -/
def addressOf (a : Archive) (v : NewVersion) (version : String) : String :=
  (Locator.mk a.base v.cloudId v.representation version v.fileName).render

/-- Lists a version. -/
def enlist (entry : ListedEntry) (a : Archive) : Archive := { a with listed := a.listed ++ [entry] }

/-- Stores a version under the next name and answers the address of its file. -/
def create (v : NewVersion) : Archive × IdSource → String × Archive × IdSource
  | (a, ids) =>
      let version := ids.next
      let url := a.addressOf v version
      let listed := match v.dataset, v.revision with
        | some dataset, some revision =>
            [⟨v.provider, dataset, revision.name,
              ⟨v.cloudId, v.representation, version, url, false⟩⟩]
        | _, _ => []
      let stored : StoredVersion :=
        ⟨⟨v.cloudId, v.representation, version, v.provider, [v.fileName], true⟩, url⟩
      (url,
        { a with
          versions := a.versions ++ [stored]
          files := a.files.insert url v.content
          listed := a.listed ++ listed },
        ids.draw)

def version? (a : Archive) (cloudId name version : String) : Option StoredVersion :=
  a.versions.find? fun v =>
    v.representation.cloudId = cloudId && v.representation.name = name &&
      v.representation.version = version

def fileAddress (a : Archive) (cloudId name version file : String) : Except StepError String :=
  match (a.version? cloudId name version).filter fun v => file ∈ v.representation.files with
  | some v => .ok v.fileUrl
  | none =>
      .error (.permanent (.ofText
        ("file " ++ file ++ " not found in " ++ cloudId ++ "/" ++ name ++ "/" ++ version)))

def read (a : Archive) (url : String) : Except StepError Bytes :=
  match a.files.get? url with
  | some content => .ok content
  | none => .error (.permanent (.ofText ("no file at " ++ url)))

/-- The entries that are listed for a dataset's representation under a revision. -/
def entriesOf (a : Archive) (query : DatasetInput) : List RevisionEntry :=
  (a.listed.filter fun l =>
    l.provider = query.provider && l.dataset = query.dataset &&
      l.revision = query.revision.name && l.entry.representation = query.representation).map
    (·.entry)

/-- The number of entries before the page that a token stands for. -/
def startOf (token : Option String) : Except StepError Nat :=
  match token with
  | none => .ok 0
  | some text =>
      match Text.readUnsigned? text.toList with
      | some start => .ok start
      | none => .error (.permanent (.ofText ("invalid continuation token " ++ text)))

/-- The page of a list from a start on. -/
def pageFrom (a : Archive) (entries : List RevisionEntry) (start : Nat) : Page RevisionEntry :=
  let rest := start + a.pageSize
  ⟨(entries.drop start).take a.pageSize,
    if rest < entries.length then some (toString rest) else none⟩

def page (a : Archive) (query : DatasetInput) (token : Option String) :
    Except StepError (Page RevisionEntry) := do
  let start ← startOf token
  pure (a.pageFrom (a.entriesOf query) start)

end Archive

end Conveyor
