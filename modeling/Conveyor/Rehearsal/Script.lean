import Conveyor.Stage
import Conveyor.StepError
import Conveyor.Text.Search

/-!
# Scripted stages

A stage that does what it is told: of its rules, the first that applies to a record decides.  A
rule may be good for a number of records only, so the stage remembers which rules it has applied.

* `Edit` — changes to an envelope.
* `Deed`, `Rule` — what is done, and when.
* `scriptedStage` — the stage.
-/

namespace Conveyor

/-- Changes to an envelope, made in the order of the fields. -/
structure Edit where
  set : List (String × String)
  remove : List String
  payload : Option (List UInt8)
  resource : Option String
deriving DecidableEq

def Edit.apply (edit : Edit) (e : Envelope) : Envelope :=
  let e := edit.set.foldl (fun e p => e.withParameter p.1 p.2) e
  let e := edit.remove.foldl Envelope.withoutParameter e
  { e with payload := edit.payload <|> e.payload, resource := edit.resource.getD e.resource }

/-- What a rule does to a record. -/
inductive Deed where
  | forward (edit : Edit)
  | error (message details : String)
  | drop
  /-- Removes another record. -/
  | dropAs (taskId : TaskId) (resource : String)
  | fail (error : StepError)
deriving DecidableEq

/-- A rule of a scripted stage. -/
structure Rule where
  /-- What tells the rule from all others. -/
  key : List Nat
  /-- What the resource has to hold. -/
  contains : Option String
  /-- How many records the rule is good for. -/
  times : Option Nat
  deed : Deed
deriving DecidableEq

namespace Rule

/-- Whether a rule applies to a record, given the rules applied so far. -/
def applies (applied : List (List Nat)) (e : Envelope) (rule : Rule) : Bool :=
  rule.contains.all (fun text => Text.occursIn text.toList e.resource.toList) &&
    rule.times.all fun times => applied.count rule.key < times

def outcome (e : Envelope) : Deed → Except StepError Outcome
  | .forward edit => .ok (.forward (edit.apply e))
  | .error message details => .ok (.failed e message details)
  | .drop => .ok (.dropped e)
  | .dropAs taskId resource => .ok (.drop taskId resource)
  | .fail err => .error err

end Rule

/-- A stage that follows rules; a record to which none applies goes on as it is. -/
def scriptedStage {σ : Type} (part : Part σ (List (List Nat))) (name : String)
    (rules : List Rule) : Stage σ where
  name := name
  process e := do
    let applied ← .gets part.get
    match rules.find? (Rule.applies applied e) with
    | none => pure (.forward e)
    | some rule =>
        .modify fun s => part.set (rule.key :: part.get s) s
        .ofExcept (Rule.outcome e rule.deed)

end Conveyor
