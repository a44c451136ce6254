import Conveyor.Dict
import Conveyor.Retry

/-!
# Configuration

The settings of a running conveyor, section by section.  Every section has standard settings, so
that a configuration which says nothing is a complete one.

* `RetryConfig` — how failed calls are retried; `RetryConfig.policy` is the policy it describes.
* `TopologyConfig`, `WorkerConfig`, `BucketConfig`, `MonitorConfig`, `IndexingConfig` — the parts.
* `Config` — the whole; `Config.flaw?` says what makes it unusable.
-/

namespace Conveyor

/-- How the delay between retries develops. -/
inductive Backoff where
  | fixed
  | exponential
deriving DecidableEq, Repr

def Backoff.name : Backoff → String
  | fixed => "fixed"
  | exponential => "exponential"

/-- How failed calls are retried. -/
structure RetryConfig where
  maxRetries : Nat
  delay : Millis
  backoff : Backoff
deriving DecidableEq, Repr

namespace RetryConfig

/-- Three retries, five seconds apart. -/
def standard : RetryConfig := ⟨3, 5000, .fixed⟩

/-- The policy that the settings describe; no retries are no policy at all. -/
def policy (c : RetryConfig) : RetryPolicy :=
  if c.maxRetries = 0 then .none
  else match c.backoff with
    | .fixed => .fixed c.maxRetries c.delay
    | .exponential => .exponential c.maxRetries c.delay RetryPolicy.standardCap

end RetryConfig

/-- The settings of one topology. -/
structure TopologyConfig where
  name : String
  partitions : Nat
  /-- Whether its tasks build on the records of an earlier task. -/
  chained : Bool
deriving DecidableEq, Repr

/-- The number of partitions where nothing else is said. -/
def standardPartitions : Nat := 8

/-- The standard settings of a topology. -/
def TopologyConfig.new (name : String) : TopologyConfig := ⟨name, standardPartitions, false⟩

/-- The settings of the workers of a run. -/
structure WorkerConfig where
  pollInterval : Millis
  batchSize : Nat
  retry : RetryConfig
deriving DecidableEq, Repr

/-- A poll every fifth of a second, for sixteen messages. -/
def WorkerConfig.standard : WorkerConfig := ⟨200, 16, RetryConfig.standard⟩

/-- The settings of bucketed counters. -/
structure BucketConfig where
  capacity : Nat
deriving DecidableEq, Repr

/-- A hundred thousand rows a bucket. -/
def BucketConfig.standard : BucketConfig := ⟨100000⟩

/-- The settings of the monitor of unfinished tasks. -/
structure MonitorConfig where
  intervalSeconds : Nat
  runOnStart : Bool
deriving DecidableEq, Repr

namespace MonitorConfig

/-- A sweep at the start and every minute. -/
def standard : MonitorConfig := ⟨60, true⟩

def interval (c : MonitorConfig) : Millis := c.intervalSeconds * 1000

end MonitorConfig

/-- The indexing environments by name. -/
structure IndexingConfig where
  environments : Dict String
deriving DecidableEq

def IndexingConfig.endpoint? (c : IndexingConfig) (environment : String) : Option String :=
  c.environments.get? environment

/-- All settings. -/
structure Config where
  topologies : List TopologyConfig
  worker : WorkerConfig
  buckets : BucketConfig
  monitor : MonitorConfig
  indexing : IndexingConfig
deriving DecidableEq

/-- What makes a complete configuration unusable. -/
inductive ConfigFlaw where
  | noPartitions (topology : String)
  | noCapacity
  | noBatch
  | noPollInterval
  | noMonitorInterval
deriving DecidableEq, Repr

def ConfigFlaw.message : ConfigFlaw → String
  | noPartitions topology =>
      "invalid config: topology " ++ topology ++ " must have at least one partition"
  | noCapacity => "invalid config: bucket capacity must be positive"
  | noBatch => "invalid config: worker batch size must be positive"
  | noPollInterval => "invalid config: worker poll interval must be positive"
  | noMonitorInterval => "invalid config: monitor interval must be positive"

namespace Config

/-- The configuration that says nothing. -/
def standard : Config :=
  ⟨[], .standard, .standard, .standard, ⟨Dict.empty⟩⟩

/-- The settings of a topology; of several of one name, the first. -/
def topology? (c : Config) (name : String) : Option TopologyConfig :=
  c.topologies.find? (·.name = name)

/-- The first flaw of a configuration. -/
def flaw? (c : Config) : Option ConfigFlaw :=
  match c.topologies.find? (·.partitions = 0) with
  | some t => some (.noPartitions t.name)
  | none =>
      if c.buckets.capacity = 0 then some .noCapacity
      else if c.worker.batchSize = 0 then some .noBatch
      else if c.worker.pollInterval = 0 then some .noPollInterval
      else if c.monitor.intervalSeconds = 0 then some .noMonitorInterval
      else none

end Config

end Conveyor
