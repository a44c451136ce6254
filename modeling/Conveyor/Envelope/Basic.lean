import Conveyor.Hash
import Conveyor.Envelope.Parameter
import Conveyor.Task.Basic

/-!
# Envelopes

A record travels as an envelope: which task it belongs to, which resource it is, what is in it at
the moment, and the parameters of the task together with what stages have added.

* `Envelope` — the type.
* `Envelope.ofTask` — the envelope in which a record of a task sets out.
* `Envelope.isMarkedDeleted` — whether the record was reported as deleted.
* `Envelope.routingKey` — the key that chooses its partition.
-/

namespace Conveyor

/-- A record on its way. -/
structure Envelope where
  taskId : TaskId
  taskName : String
  resource : String
  payload : Option (List UInt8)
  parameters : Dict String
  revision : Option Revision
  harvest : Option Harvest
deriving DecidableEq

namespace Envelope

/-- An empty envelope without parameters. -/
def new (taskId : TaskId) (taskName resource : String) : Envelope where
  taskId := taskId
  taskName := taskName
  resource := resource
  payload := none
  parameters := Dict.empty
  revision := none
  harvest := none

/-- The envelope of a resource of a task: empty, with the task's parameters. -/
def ofTask (task : Task) (resource : String) : Envelope where
  taskId := task.id
  taskName := task.name
  resource := resource
  payload := none
  parameters := task.parameters
  revision := task.outputRevision
  harvest := task.harvest

def parameter? (e : Envelope) (key : String) : Option String := e.parameters.get? key

def withParameter (e : Envelope) (key value : String) : Envelope :=
  { e with parameters := e.parameters.insert key value }

def withoutParameter (e : Envelope) (key : String) : Envelope :=
  { e with parameters := e.parameters.erase key }

def withPayload (e : Envelope) (payload : List UInt8) : Envelope :=
  { e with payload := some payload }

/-- Whether the record was reported as deleted: the mark is `true`, in any letter case of ASCII. -/
def isMarkedDeleted (e : Envelope) : Bool :=
  match e.parameter? Parameter.markedDeleted with
  | some mark => mark.toList.map Char.toLower = "true".toList
  | none => false

/-- The key that chooses the record's partition: the one it was given, else its resource. -/
def routingKey (e : Envelope) : String := (e.parameter? Parameter.routingKey).getD e.resource

def bucketNumber (e : Envelope) (count : Nat) : Nat := Hash.bucketNumber e.routingKey count

end Envelope

end Conveyor
