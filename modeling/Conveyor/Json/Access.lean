import Conveyor.Json.Document

/-!
# Looking into documents

* `Doc.members`, `Doc.items` — what an object or an array holds.
* `Doc.member?` — the value of a member.
-/

namespace Conveyor.Json

def Members.toList : Members → List (String × Doc)
  | .member key value rest =>
      match key.value with
      | .ok k => (k, value) :: rest.toList
      | .error _ => rest.toList
  | _ => []

def Items.toList : Items → List Doc
  | .item value rest => value :: rest.toList
  | .done _ => []

namespace Doc

/-- The members of an object; other documents have none. -/
def members : Doc → List (String × Doc)
  | .object ms => ms.toList
  | _ => []

/-- The items of an array; other documents have none. -/
def items : Doc → List Doc
  | .array is => is.toList
  | _ => []

def member? (d : Doc) (name : String) : Option Doc :=
  (d.members.find? fun m => m.1 = name).map (·.2)

/-- The value of a member, unless it is null. -/
def field? (d : Doc) (name : String) : Option Doc :=
  match d.member? name with
  | some .null => none
  | other => other

/-- An object with more members. -/
def withMembers (d : Doc) (more : List (String × Doc)) : Doc := .ofMembers (d.members ++ more)

/-- The document of a value that may be missing: null if it is. -/
def orNull {α : Type} (f : α → Doc) : Option α → Doc
  | some a => f a
  | none => .null

end Doc

end Conveyor.Json
