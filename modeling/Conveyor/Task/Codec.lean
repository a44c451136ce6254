import Conveyor.Json.Record
import Conveyor.Task.Info

/-!
# The documents of tasks

* `Revision.codec`, `Harvest.codec` — what tasks and envelopes share.
* `Task.codec`, with `TaskId.codec`, `TaskInput.codec` and `DatasetInput.codec`.
* `TaskInfo.codec`, with `TaskState.codec`.
-/

namespace Conveyor

open Json

def Revision.codec : Codec Revision :=
  (Codec.record "Revision" <|
    .cons (required "name" Codec.text) <|
    .cons (required "provider" Codec.text) <|
    .cons (required "timestamp" Codec.timestamp) <|
    .cons (optional "tags" Codec.textSet Dict.empty) .nil).iso
    (fun (name, provider, timestamp, tags, ()) => ⟨name, provider, timestamp, tags⟩)
    (fun r => (r.name, r.provider, r.timestamp, r.tags, ()))

def Harvest.codec : Codec Harvest :=
  (Codec.record "HarvestDescriptor" <|
    .cons (required "url" Codec.text) <|
    .cons (required "metadata_prefix" Codec.text) <|
    .cons (optional "set" Codec.text.option none) <|
    .cons (optional "from" Codec.timestamp.option none) <|
    .cons (optional "until" Codec.timestamp.option none) .nil).iso
    (fun (url, form, subset, earliest, latest, ()) => ⟨url, form, subset, earliest, latest⟩)
    (fun h => (h.url, h.metadataForm, h.subset, h.earliest, h.latest, ()))

def TaskId.codec : Codec TaskId := Codec.signed64.iso TaskId.mk TaskId.value

def DatasetInput.codec : Codec DatasetInput :=
  (Codec.record "DatasetInput" <|
    .cons (required "provider_id" Codec.text) <|
    .cons (required "dataset_id" Codec.text) <|
    .cons (required "representation_name" Codec.text) <|
    .cons (required "revision" Revision.codec) .nil).iso
    (fun (provider, dataset, representation, revision, ()) =>
      ⟨provider, dataset, representation, revision⟩)
    (fun i => (i.provider, i.dataset, i.representation, i.revision, ()))

def TaskInput.codec : Codec TaskInput :=
  Codec.tagged
    [⟨"resources", fun d => (Codec.text.list.read d).map .resources⟩,
      ⟨"datasets", fun d => (DatasetInput.codec.list.read d).map .datasets⟩]
    (fun
      | .resources names => ("resources", Codec.text.list.write names)
      | .datasets inputs => ("datasets", DatasetInput.codec.list.write inputs))

def Task.codec : Codec Task :=
  (Codec.record "Task" <|
    .cons (required "id" TaskId.codec) <|
    .cons (required "name" Codec.text) <|
    .cons (required "topology" Codec.text) <|
    .cons (optional "parameters" Codec.text.dict Dict.empty) <|
    .cons (optional "input" TaskInput.codec (.resources [])) <|
    .cons (optional "output_revision" Revision.codec.option none) <|
    .cons (optional "harvesting" Harvest.codec.option none) <|
    .cons (optional "restart" Codec.bool false) .nil).iso
    (fun (id, name, topology, parameters, input, outputRevision, harvest, restart, ()) =>
      ⟨id, name, topology, parameters, input, outputRevision, harvest, restart⟩)
    (fun t => (t.id, t.name, t.topology, t.parameters, t.input, t.outputRevision, t.harvest,
      t.restart, ()))

def TaskState.codec : Codec TaskState :=
  Codec.choice (TaskState.all.map fun s => (s.name, s)) TaskState.name

def TaskInfo.codec : Codec TaskInfo :=
  (Codec.record "TaskInfo" <|
    .cons (required "id" TaskId.codec) <|
    .cons (required "topology_name" Codec.text) <|
    .cons (required "state" TaskState.codec) <|
    .cons (required "state_description" Codec.text) <|
    .cons (required "owner" Codec.text.option) <|
    .cons (required "expected_records_number" Codec.signed64) <|
    .cons (required "processed_records_count" Codec.signed64) <|
    .cons (required "processed_errors_count" Codec.signed64) <|
    .cons (required "deleted_records_count" Codec.signed64) <|
    .cons (required "post_processed_records_count" Codec.signed64) <|
    .cons (required "fatal_error" Codec.text.option) <|
    .cons (required "sent_timestamp" Codec.timestamp) <|
    .cons (required "start_timestamp" Codec.timestamp.option) <|
    .cons (required "finish_timestamp" Codec.timestamp.option) .nil).iso
    (fun (id, topology, state, description, owner, expected, processed, errors, deleted,
        postProcessed, fatal, sentAt, startedAt, finishedAt, ()) =>
      ⟨id, topology, state, description, owner, expected, processed, errors, deleted,
        postProcessed, fatal, sentAt, startedAt, finishedAt⟩)
    (fun t => (t.id, t.topology, t.state, t.description, t.owner, t.expected, t.processed,
      t.errors, t.deleted, t.postProcessed, t.fatal, t.sentAt, t.startedAt, t.finishedAt, ()))

end Conveyor
