/-!
# Step errors

Why a call to the outside world failed, and whether it is worth another try.

* `Failure` — a text, and the texts of its causes, outermost first.
* `Failure.report` — the text with its causes, one paragraph.
* `StepError` — a failure that may pass (`retryable`) or will not (`permanent`).
-/

namespace Conveyor

/-- What went wrong: a text, and what caused it, and what caused that. -/
structure Failure where
  text : String
  causes : List String
deriving DecidableEq, Repr

namespace Failure

def ofText (text : String) : Failure := ⟨text, []⟩

def lines (text : String) : List (List Char) := go text.toList
where
  go : List Char → List (List Char)
    | [] => [[]]
    | c :: cs =>
        if c = '\n' then [] :: go cs
        else match go cs with
          | [] => [[c]]
          | line :: rest => (c :: line) :: rest

/-- A text whose first line stands behind `mark` and whose other lines are set in by `margin`. -/
def hang (mark margin : String) (text : String) : String :=
  match lines text with
  | [] => mark
  | first :: rest =>
      mark ++ String.ofList first ++
        String.join (rest.map fun line => "\n" ++ margin ++ String.ofList line)

/-- The number of a cause, flush right on five places. -/
def causeNumber (n : Nat) : String :=
  let digits := toString n
  String.ofList (List.replicate (5 - digits.length) ' ') ++ digits ++ ": "

/-- Causes from number `n` on, each on lines of its own. -/
def numbered (n : Nat) : List String → String
  | [] => ""
  | cause :: rest => "\n" ++ hang (causeNumber n) "       " cause ++ numbered (n + 1) rest

/-- The text with its causes: one cause is set in, several are numbered from 0. -/
def report (f : Failure) : String :=
  match f.causes with
  | [] => f.text
  | [cause] => f.text ++ "\n\nCaused by:\n" ++ hang "    " "    " cause
  | causes => f.text ++ "\n\nCaused by:" ++ numbered 0 causes

end Failure

/-- A failed call. -/
inductive StepError where
  /-- Another try may succeed: the connection was lost, the service was busy. -/
  | retryable (failure : Failure)
  /-- Another try will fail too: the input is missing, the request was refused. -/
  | permanent (failure : Failure)
deriving DecidableEq, Repr

namespace StepError

def failure : StepError → Failure
  | retryable f => f
  | permanent f => f

def isRetryable : StepError → Bool
  | retryable _ => true
  | permanent _ => false

def message : StepError → String
  | retryable f => "retryable: " ++ f.text
  | permanent f => "permanent: " ++ f.text

end StepError

end Conveyor
