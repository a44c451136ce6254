import Conveyor.Action
import Conveyor.StoreError

/-!
# Tables

A table of a database keeps its rows in the order of their keys.  It is reached through a
connection, and once the database is shut down every statement on it fails.

* `Table ρ` — the rows, and whether the database is shut down.
* `Table.select` — the rows that fulfil a condition.
* `Table.revise` — a change to those rows, answered by their number.
* `Table.statement` — any other change.
-/

namespace Conveyor

/-- A table of a database. -/
structure Table (ρ : Type) where
  rows : List ρ
  /-- Whether the database is shut down. -/
  closed : Bool
deriving DecidableEq

namespace Table

variable {ρ α : Type}

def empty : Table ρ := ⟨[], false⟩

instance : Inhabited (Table ρ) := ⟨empty⟩

/-- The failure of every statement once the database is shut down. -/
def closedError : StoreError :=
  .storage "attempted to acquire a connection on a closed pool"

/-- A statement: from the rows to an answer and the rows after it. -/
def statement (f : List ρ → α × List ρ) : Action (Table ρ) StoreError α := fun t =>
  if t.closed then (.error closedError, t)
  else (.ok (f t.rows).1, { t with rows := (f t.rows).2 })

def select (condition : ρ → Bool) : Action (Table ρ) StoreError (List ρ) :=
  statement fun rows => (rows.filter condition, rows)

/-- Changes the rows that fulfil a condition and answers how many there are. -/
def revise (condition : ρ → Bool) (change : ρ → ρ) : Action (Table ρ) StoreError Nat :=
  statement fun rows =>
    (rows.countP condition, rows.map fun row => if condition row then change row else row)

def append (row : ρ) : Action (Table ρ) StoreError Unit :=
  statement fun rows => ((), rows ++ [row])

/-- The table once the database is shut down. -/
def shutDown (t : Table ρ) : Table ρ := { t with closed := true }

theorem statement_of_open {t : Table ρ} (h : t.closed = false) (f : List ρ → α × List ρ) :
    statement f t = (.ok (f t.rows).1, { t with rows := (f t.rows).2 }) := by
  simp [statement, h]

theorem statement_of_closed {t : Table ρ} (h : t.closed = true) (f : List ρ → α × List ρ) :
    statement f t = (.error closedError, t) := by
  simp [statement, h]

end Table

end Conveyor
