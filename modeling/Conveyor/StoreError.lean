import Conveyor.StepError

/-!
# Store errors

Why a call to a queue, a task store, a notification sink or a bucket store failed.

* `StoreError` — the kinds, and `StoreError.message`, their wording.
* `StoreError.isTransient` — whether another try may succeed.
* `StoreError.toStepError` — a store error met while a record is processed.
-/

namespace Conveyor

/-- A failed store call. -/
inductive StoreError where
  /-- The store cannot be reached, or cannot do what it was asked. -/
  | storage (text : String)
  /-- A value cannot be written in the store's form. -/
  | serialization (text : String)
  /-- A name or a time that the store holds cannot be read. -/
  | deserialization (text : String)
  /-- A document that the store holds cannot be read. -/
  | unreadable (fault : String)
  /-- The key of a new entry is taken. -/
  | alreadyExists (text : String)
deriving DecidableEq, Repr

namespace StoreError

def message : StoreError → String
  | storage text => "storage error: " ++ text
  | serialization text => "serialization error: " ++ text
  | deserialization text => "deserialization error: " ++ text
  | unreadable fault => "deserialization error: " ++ fault
  | alreadyExists text => "already exists: " ++ text

/-- Trouble with the storage itself may pass; the others will not. -/
def isTransient : StoreError → Bool
  | storage _ => true
  | _ => false

/-- A store error as the failure of a step. -/
def toStepError (e : StoreError) : StepError :=
  if e.isTransient then .retryable (.ofText e.message) else .permanent (.ofText e.message)

end StoreError

end Conveyor
