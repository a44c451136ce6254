import Conveyor.Envelope.Basic
import Conveyor.Task.Codec

/-!
# The document of an envelope

* `Envelope.codec` — the form in which records are handed from stage to stage by a queue that
  keeps text.
-/

namespace Conveyor

open Json

def Envelope.codec : Codec Envelope :=
  (Codec.record "RecordEnvelope" <|
    .cons (required "task_id" TaskId.codec) <|
    .cons (required "task_name" Codec.text) <|
    .cons (required "resource" Codec.text) <|
    .cons (optional "payload" Codec.byte.list.option none) <|
    .cons (optional "parameters" Codec.text.dict Dict.empty) <|
    .cons (optional "revision" Revision.codec.option none) <|
    .cons (optional "harvesting" Harvest.codec.option none) .nil).iso
    (fun (taskId, taskName, resource, payload, parameters, revision, harvest, ()) =>
      ⟨taskId, taskName, resource, payload, parameters, revision, harvest⟩)
    (fun e => (e.taskId, e.taskName, e.resource, e.payload, e.parameters, e.revision, e.harvest,
      ()))

end Conveyor
