/-!
# Locators

A stored file is addressed by a locator

`{base}/records/{record}/representations/{representation}/versions/{version}/files/{file}`

whose base may be any text, slashes and all, and whose four names are non-empty and hold no slash.

* `Locator` — the five parts, and `Locator.render`, the text they make up.
* `Locator.parse?` — the parts of a text that has this form.

The base is found from the right: the last `/records/` of a text is the one that counts.
-/

namespace Conveyor

/-- The parts of a stored file's address. -/
structure Locator where
  base : String
  record : String
  representation : String
  version : String
  file : String
deriving DecidableEq, Repr

namespace Locator

def render (l : Locator) : String :=
  l.base ++ "/records/" ++ l.record ++ "/representations/" ++ l.representation ++
    "/versions/" ++ l.version ++ "/files/" ++ l.file

/-- Splits a text at the last place where `separator` stands: what comes before and after it. -/
def splitLast? (separator : List Char) : List Char → Option (List Char × List Char)
  | [] => if separator = [] then some ([], []) else none
  | c :: cs =>
      match splitLast? separator cs with
      | some (before, after) => some (c :: before, after)
      | none =>
          if separator.isPrefixOf (c :: cs) then some ([], (c :: cs).drop separator.length)
          else none

/-- The parts of a text between slashes; one more than it has slashes. -/
def segments : List Char → List (List Char)
  | [] => [[]]
  | c :: cs =>
      if c = '/' then [] :: segments cs
      else
        match segments cs with
        | [] => [[c]]
        | first :: rest => (c :: first) :: rest

/-- The parts of a text that is a locator. -/
def parse? (text : String) : Option Locator :=
  match splitLast? "/records/".toList text.toList with
  | none => none
  | some (base, path) =>
      match (segments path).map String.ofList with
      | [record, "representations", representation, "versions", version, "files", file] =>
          if record ≠ "" ∧ representation ≠ "" ∧ version ≠ "" ∧ file ≠ "" then
            some ⟨String.ofList base, record, representation, version, file⟩
          else none
      | _ => none

end Locator

end Conveyor
