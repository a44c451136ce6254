import Conveyor.Buckets.Basic
import Conveyor.Services.Listing
import Conveyor.Task.Codec
import Conveyor.Tracker.Notification

/-!
# The documents of reports and listings

* `Notification.codec`, with `RecordState.codec`.
* `RevisionEntry.codec`, `Page.codec` and `Representation.codec`.
* `Bucket.codec`.
-/

namespace Conveyor

open Json

def RecordState.codec : Codec RecordState :=
  Codec.choice ([RecordState.error, .deleted].map fun s => (s.name, s)) RecordState.name

def Notification.codec : Codec Notification :=
  (Codec.record "Notification" <|
    .cons (required "task_id" TaskId.codec) <|
    .cons (required "resource" Codec.text) <|
    .cons (required "state" RecordState.codec) <|
    .cons (required "info_text" Codec.text) <|
    .cons (required "additional_info" Codec.text) <|
    .cons (required "created_at" Codec.timestamp) .nil).iso
    (fun (taskId, resource, state, info, details, createdAt, ()) =>
      ⟨taskId, resource, state, info, details, createdAt⟩)
    (fun n => (n.taskId, n.resource, n.state, n.info, n.details, n.createdAt, ()))

def RevisionEntry.codec : Codec RevisionEntry :=
  (Codec.record "RevisionEntry" <|
    .cons (required "cloud_id" Codec.text) <|
    .cons (required "representation_name" Codec.text) <|
    .cons (required "version" Codec.text) <|
    .cons (required "file_url" Codec.text) <|
    .cons (optional "deleted" Codec.bool false) .nil).iso
    (fun (cloudId, representation, version, fileUrl, deleted, ()) =>
      ⟨cloudId, representation, version, fileUrl, deleted⟩)
    (fun e => (e.cloudId, e.representation, e.version, e.fileUrl, e.deleted, ()))

def Page.codec {α : Type} (c : Codec α) : Codec (Page α) :=
  (Codec.record "ResultSlice" <|
    .cons (required "results" c.list) <|
    .cons (required "next_token" Codec.text.option) .nil).iso
    (fun (results, next, ()) => ⟨results, next⟩)
    (fun p => (p.results, p.next, ()))

def Representation.codec : Codec Representation :=
  (Codec.record "Representation" <|
    .cons (required "cloud_id" Codec.text) <|
    .cons (required "representation_name" Codec.text) <|
    .cons (required "version" Codec.text) <|
    .cons (required "data_provider" Codec.text) <|
    .cons (required "files" Codec.text.list) <|
    .cons (required "persistent" Codec.bool) .nil).iso
    (fun (cloudId, name, version, provider, files, persistent, ()) =>
      ⟨cloudId, name, version, provider, files, persistent⟩)
    (fun r => (r.cloudId, r.name, r.version, r.provider, r.files, r.persistent, ()))

def Bucket.codec : Codec Bucket :=
  (Codec.record "Bucket" <|
    .cons (required "object_id" Codec.text) <|
    .cons (required "bucket_id" Codec.text) <|
    .cons (required "rows_count" Codec.unsigned64) .nil).iso
    (fun (objectId, bucketId, rows, ()) => ⟨objectId, bucketId, rows⟩)
    (fun b => (b.objectId, b.bucketId, b.rows, ()))

end Conveyor
