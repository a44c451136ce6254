/-!
# The names of parameters

The parameters that submission and stages look at.  A record carries them with it; any others pass
through untouched.

* `Parameter.transient` — the parameters that hold where a record was read from, and mean nothing
  once it has been written elsewhere.
-/

namespace Conveyor.Parameter

/-- The task whose records a chained task builds on. -/
def previousTaskId : String := "PREVIOUS_TASK_ID"

/-- The schema to validate against, and its version. -/
def schemaName : String := "SCHEMA_NAME"
def schemaVersion : String := "SCHEMA_VERSION"

/-- The indexing environment to publish to. -/
def targetEnvironment : String := "TARGET_INDEXING_DATABASE"

/-- The date that an indexed record is given. -/
def recordDate : String := "RECORD_DATE"

/-- The representation to write, and its type. -/
def newRepresentationName : String := "NEW_REPRESENTATION_NAME"
def outputMimeType : String := "OUTPUT_MIME_TYPE"

/-- Where the record was written to. -/
def outputUrl : String := "OUTPUT_URL"

/-- The provider and the dataset that written records belong to. -/
def providerId : String := "PROVIDER_ID"
def outputDataset : String := "OUTPUT_DATASET"

/-- The credentials for calls made on behalf of the task. -/
def authorization : String := "AUTHORIZATION_HEADER"

/-- The key that chooses a record's partition. -/
def routingKey : String := "ROUTING_KEY"

/-- Whether the record was reported as deleted. -/
def markedDeleted : String := "MARKED_DELETED"

/-- Where the record was read from: record, representation, version and file. -/
def cloudId : String := "CLOUD_ID"
def representationName : String := "REPRESENTATION_NAME"
def representationVersion : String := "REPRESENTATION_VERSION"
def fileName : String := "FILE_NAME"

/-- The parameters that say where a record was read from. -/
def transient : List String := [cloudId, representationName, representationVersion, fileName]

end Conveyor.Parameter
