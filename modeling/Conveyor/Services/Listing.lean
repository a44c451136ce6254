import Conveyor.Task.Basic

/-!
# Stored versions and their listing

What the metadata service says about the versions that it keeps.

* `RevisionEntry` — a stored version under the revision it is tagged with.
* `Page` — a part of a listing, with a token for the next part.
* `Representation` — a stored version on its own.
* `NewVersion` — a version to be stored.
-/

namespace Conveyor

/-- A stored version that is tagged with a revision. -/
structure RevisionEntry where
  cloudId : String
  representation : String
  version : String
  fileUrl : String
  deleted : Bool
deriving DecidableEq, Repr

/-- A part of a listing. -/
structure Page (α : Type) where
  results : List α
  /-- How to ask for the next part; none after the last one. -/
  next : Option String
deriving DecidableEq, Repr

/-- A stored version. -/
structure Representation where
  cloudId : String
  name : String
  version : String
  provider : String
  files : List String
  persistent : Bool
deriving DecidableEq, Repr

/-- A version to be stored: its content and what is known about it. -/
structure NewVersion where
  cloudId : String
  representation : String
  provider : String
  dataset : Option String
  fileName : String
  mimeType : String
  content : List UInt8
  revision : Option Revision
  authorization : Option String
deriving DecidableEq

end Conveyor
