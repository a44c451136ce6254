import Conveyor.Json.Access
import Conveyor.Rehearsal.Exchange
import Conveyor.Task.Codec
import Conveyor.Text.Hex

/-!
# The document of a journal

* `ServiceCall.document` — an entry: the name of the call and what it was made with.
* `ServiceOp.name` — the name of a kind of call.
-/

namespace Conveyor

open Json

def ServiceOp.name : ServiceOp → String
  | read => "content.read"
  | fetch => "metadata.read"
  | create => "metadata.create"
  | list => "metadata.list"
  | validate => "validate"
  | index => "index"
  | depublish => "depublish"
  | isActive => "registry.is_active"

def ServiceOp.all : List ServiceOp :=
  [read, fetch, create, list, validate, index, depublish, isActive]

def NewVersion.document (v : NewVersion) : Doc :=
  .ofMembers [("cloud_id", .ofText v.cloudId), ("representation_name", .ofText v.representation),
    ("provider_id", .ofText v.provider), ("dataset_id", Doc.orNull .ofText v.dataset),
    ("file_name", .ofText v.fileName), ("mime_type", .ofText v.mimeType),
    ("content", .ofText (Text.hex v.content)),
    ("revision", Doc.orNull Revision.codec.write v.revision),
    ("authorization", Doc.orNull .ofText v.authorization)]

def ServiceCall.arguments : ServiceCall → List Doc
  | .read resource authorization => [.ofText resource, Doc.orNull .ofText authorization]
  | .fetch url authorization => [.ofText url, Doc.orNull .ofText authorization]
  | .create v => [v.document]
  | .list query token =>
      [.ofText query.provider, .ofText query.dataset, .ofText query.representation,
        .ofText query.revision.name, Doc.orNull .ofText token]
  | .validate content schema version =>
      [.ofText (Text.hex content), .ofText schema, Doc.orNull .ofText version]
  | .index endpoint content => [.ofText endpoint, .ofText (Text.hex content)]
  | .depublish resource => [.ofText resource]
  | .isActive owner => [.ofText owner]

def ServiceCall.document (c : ServiceCall) : Doc :=
  .ofList (.ofText c.op.name :: c.arguments)

end Conveyor
