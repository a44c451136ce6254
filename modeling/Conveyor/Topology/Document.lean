import Conveyor.Envelope.Codec
import Conveyor.Json.Access
import Conveyor.Topology.Basic

/-!
# The documents of outcomes and graphs

Both are written for people and tools to look at, and never read back.

* `Outcome.document` — what became of a record.
* `Graph.document` — what a topology looks like.
-/

namespace Conveyor

open Json

def Outcome.document : Outcome → Doc
  | .forward e => .ofMembers [("kind", .ofText "forward"), ("envelope", Envelope.codec.write e)]
  | .error e =>
      .ofMembers [("kind", .ofText "error"), ("task_id", TaskId.codec.write e.taskId),
        ("resource", .ofText e.resource), ("message", .ofText e.message),
        ("additional_info", .ofText e.details)]
  | .drop taskId resource =>
      .ofMembers [("kind", .ofText "drop"), ("task_id", TaskId.codec.write taskId),
        ("resource", .ofText resource)]

def GraphNode.document (n : GraphNode) : Doc :=
  .ofMembers [("name", .ofText n.name), ("index", .ofInt n.index), ("topic", .ofText n.topic),
    ("description", Doc.orNull .ofText n.annotation.description),
    ("tags", Codec.text.dict.write n.annotation.tags)]

def Graph.document (g : Graph) : Doc :=
  .ofMembers [("name", .ofText g.name), ("partitions", .ofInt g.partitions),
    ("stages", .ofList (g.nodes.map GraphNode.document))]

end Conveyor
