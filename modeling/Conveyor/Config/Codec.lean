import Conveyor.Config.Basic
import Conveyor.Json.Record
import Conveyor.Text.Bytes

/-!
# Configuration documents

A configuration is a document in which every section and every setting may be missing; only a
topology needs its name.

* `Config.codec`, and the codecs of its sections.
* `ConfigError` — why a text or a file is no usable configuration.
* `Config.ofText`, `Config.ofFile` — the configuration of a text, and of a file's content.
-/

namespace Conveyor

open Json

def Backoff.codec : Codec Backoff :=
  Codec.choice ([Backoff.fixed, .exponential].map fun b => (b.name, b)) Backoff.name

def RetryConfig.codec : Codec RetryConfig :=
  let s := RetryConfig.standard
  (Codec.record "RetryConfig" <|
    .cons (optional "max_retries" Codec.unsigned32 s.maxRetries) <|
    .cons (optional "delay_ms" Codec.unsigned64 s.delay) <|
    .cons (optional "backoff" Backoff.codec s.backoff) .nil).iso
    (fun (maxRetries, delay, backoff, ()) => ⟨maxRetries, delay, backoff⟩)
    (fun c => (c.maxRetries, c.delay, c.backoff, ()))

def TopologyConfig.codec : Codec TopologyConfig :=
  (Codec.record "TopologyConfig" <|
    .cons (required "name" Codec.text) <|
    .cons (optional "partitions" Codec.unsigned32 standardPartitions) <|
    .cons (optional "chained" Codec.bool false) .nil).iso
    (fun (name, partitions, chained, ()) => ⟨name, partitions, chained⟩)
    (fun c => (c.name, c.partitions, c.chained, ()))

def WorkerConfig.codec : Codec WorkerConfig :=
  let s := WorkerConfig.standard
  (Codec.record "WorkerConfig" <|
    .cons (optional "poll_interval_ms" Codec.unsigned64 s.pollInterval) <|
    .cons (optional "batch_size" Codec.size s.batchSize) <|
    .cons (optional "retry" RetryConfig.codec s.retry) .nil).iso
    (fun (pollInterval, batchSize, retry, ()) => ⟨pollInterval, batchSize, retry⟩)
    (fun c => (c.pollInterval, c.batchSize, c.retry, ()))

def BucketConfig.codec : Codec BucketConfig :=
  (Codec.record "BucketConfig" <|
    .cons (optional "capacity" Codec.unsigned64 BucketConfig.standard.capacity) .nil).iso
    (fun (capacity, ()) => ⟨capacity⟩)
    (fun c => (c.capacity, ()))

def MonitorConfig.codec : Codec MonitorConfig :=
  let s := MonitorConfig.standard
  (Codec.record "MonitorConfig" <|
    .cons (optional "interval_secs" Codec.unsigned64 s.intervalSeconds) <|
    .cons (optional "run_on_start" Codec.bool s.runOnStart) .nil).iso
    (fun (intervalSeconds, runOnStart, ()) => ⟨intervalSeconds, runOnStart⟩)
    (fun c => (c.intervalSeconds, c.runOnStart, ()))

def IndexingConfig.codec : Codec IndexingConfig :=
  (Codec.record "IndexingConfig" <|
    .cons (optional "environments" Codec.text.dict Dict.empty) .nil).iso
    (fun (environments, ()) => ⟨environments⟩)
    (fun c => (c.environments, ()))

/-- The document of a configuration. -/
def Config.codec : Codec Config :=
  let s := Config.standard
  (Codec.record "Config" <|
    .cons (optional "topologies" TopologyConfig.codec.list s.topologies) <|
    .cons (optional "worker" WorkerConfig.codec s.worker) <|
    .cons (optional "buckets" BucketConfig.codec s.buckets) <|
    .cons (optional "monitor" MonitorConfig.codec s.monitor) <|
    .cons (optional "indexing" IndexingConfig.codec s.indexing) .nil).iso
    (fun (topologies, worker, buckets, monitor, indexing, ()) =>
      ⟨topologies, worker, buckets, monitor, indexing⟩)
    (fun c => (c.topologies, c.worker, c.buckets, c.monitor, c.indexing, ()))

/-! ## Texts and files -/

/-- Why a file cannot be read as text. -/
inductive FileError where
  | notFound
  | isDirectory
  /-- The name holds a NUL, as no name can. -/
  | badName
  /-- The name, or a part of it, has more bytes than names can have. -/
  | nameTooLong
  | notText
deriving DecidableEq, Repr

namespace FileError

def message : FileError → String
  | notFound => "No such file or directory (os error 2)"
  | isDirectory => "Is a directory (os error 21)"
  | badName => "file name contained an unexpected NUL byte"
  | nameTooLong => "File name too long (os error 36)"
  | notText => "stream did not contain valid UTF-8"

/-- The parts of a name that are looked up: all but empty ones, the dot and the two dots. -/
def partsOf (name : String) : List String :=
  (name.splitOn "/").filter (· ∉ ["", ".", ".."])

/-- Why nothing can be read under a name where there are no files: a name of less than 4096 bytes
is followed to its first part, which may have up to 255; a name without such a part is that of a
directory. -/
def ofName (name : String) : FileError :=
  if '\x00' ∈ name.toList then badName
  else if name = "" then notFound
  else if 4096 ≤ Text.byteLength name.toList then nameTooLong
  else match partsOf name with
    | [] => isDirectory
    | part :: _ => if 255 < Text.byteLength part.toList then nameTooLong else notFound

end FileError

/-- Why there is no configuration. -/
inductive ConfigError where
  | unreadable (path : String) (reason : FileError)
  | unparsable (reason : ReadError)
  | invalid (flaw : ConfigFlaw)
deriving DecidableEq, Repr

def ConfigError.message : ConfigError → String
  | unreadable path reason => "failed to read config file " ++ path ++ ": " ++ reason.message
  | unparsable reason => "invalid config: " ++ reason.message
  | invalid flaw => flaw.message

namespace Config

/-- The configuration of a text. -/
def ofText (text : String) : Except ConfigError Config :=
  match Config.codec.decode text with
  | .error reason => .error (.unparsable reason)
  | .ok config =>
      match config.flaw? with
      | some flaw => .error (.invalid flaw)
      | none => .ok config

/-- The configuration in a file, given what reading the file gave. -/
def ofFile (path : String) (content : Except FileError ByteArray) : Except ConfigError Config :=
  match content with
  | .error reason => .error (.unreadable path reason)
  | .ok bytes =>
      match String.fromUTF8? bytes with
      | none => .error (.unreadable path .notText)
      | some text => ofText text

end Config

end Conveyor
