import Conveyor.Action
import Conveyor.Envelope.Basic
import Conveyor.StoreError

/-!
# Queues

Records wait for their stages on topics.  A worker *claims* the oldest messages of a partition,
which puts them *in flight*; what it has dealt with it *acknowledges*, and what it could not deal
with it *releases*, so that it is delivered again.  Messages that were in flight when a process
ended are *recovered*.

* `Attempts` — how often a message was delivered; `Delivery` — a claimed message.
* `MessageQueue` — the operations.
* `claimFirst` — taking the first items of a list that are wanted, the rule of every claim;
  `claimFirst_fst` and `map_claimFirst_snd` say what is taken and what stays as it is.
-/

namespace Conveyor

/-- The number of a message; numbers are given in the order of publication and never again. -/
structure MessageId where
  value : Int
deriving DecidableEq, Repr

/-- How many claims have delivered a message, in a counter of 32 bits: behind `2 ^ 32 - 1` it begins
anew at zero. -/
abbrev Attempts := Fin 4294967296

-- stated at the zero of the numerals, which is the one that `Fin` asks for
instance Attempts.instNeZero : @NeZero Nat Zero.ofOfNat0 4294967296 := ⟨by decide⟩

/-- One more claim moves the counter on. -/
theorem Attempts.ofNat_succ (n : Nat) :
    (Fin.ofNat _ (n + 1) : Attempts) = Fin.ofNat _ n + 1 :=
  (Fin.ofNat_add n 1).symm

/-- A claimed message. -/
structure Delivery where
  id : MessageId
  topic : String
  partition : Nat
  envelope : Envelope
  /-- How many claims have delivered the message, this one included. -/
  attempts : Attempts
deriving DecidableEq

/-- Queues of envelopes. -/
class MessageQueue (Q : Type) where
  /-- Adds a message to a partition of a topic. -/
  publish : String → Nat → Envelope → Action Q StoreError MessageId
  /-- Puts the oldest pending messages of a partition, up to a limit, in flight. -/
  claim : String → Nat → Nat → Action Q StoreError (List Delivery)
  /-- Removes a message for good. -/
  ack : MessageId → Action Q StoreError Unit
  /-- Makes a message in flight pending again. -/
  release : MessageId → Action Q StoreError Unit
  /-- Makes all messages of a topic that are in flight pending again and counts them. -/
  recover : String → Action Q StoreError Nat
  /-- The number of messages of a topic that are not acknowledged. -/
  outstanding : String → Action Q StoreError Nat
  /-- A bound on the messages that there are, and on those that come to be because a message is
  published again whose publication or acknowledgement failed. -/
  backlog : Q → Nat

variable {α : Type}

/-- Changes the first items, up to a limit, that are wanted: the changed items on their own, and
the list with the changes in place. -/
def claimFirst (wanted : α → Bool) (change : α → α) : Nat → List α → List α × List α
  | _, [] => ([], [])
  | 0, items => ([], items)
  | limit + 1, item :: rest =>
      if wanted item then
        let (taken, left) := claimFirst wanted change limit rest
        (change item :: taken, change item :: left)
      else
        let (taken, left) := claimFirst wanted change (limit + 1) rest
        (taken, item :: left)

/-- **What is taken** are the first wanted items, changed. -/
theorem claimFirst_fst (wanted : α → Bool) (change : α → α) (limit : Nat) (items : List α) :
    (claimFirst wanted change limit items).1 = ((items.filter wanted).take limit).map change := by
  fun_induction claimFirst wanted change limit items with
  | case1 => simp
  | case2 => simp
  | case3 limit item rest h taken left eq ih =>
    rw [eq] at ih
    simp_all
  | case4 limit item rest h taken left eq ih =>
    rw [eq] at ih
    simp_all

/-- What the change keeps of an item is kept of the whole list. -/
theorem map_claimFirst_snd {β : Type} (wanted : α → Bool) (change : α → α) (f : α → β)
    (keeps : ∀ a, f (change a) = f a) (limit : Nat) (items : List α) :
    (claimFirst wanted change limit items).2.map f = items.map f := by
  fun_induction claimFirst wanted change limit items with
  | case1 => rfl
  | case2 => rfl
  | case3 limit item rest h taken left eq ih =>
    rw [eq] at ih
    simp [keeps, ih]
  | case4 limit item rest h taken left eq ih =>
    rw [eq] at ih
    simp [ih]

/-- What is taken stands in the list with the changes in place. -/
theorem claimFirst_sublist (wanted : α → Bool) (change : α → α) (limit : Nat) (items : List α) :
    (claimFirst wanted change limit items).1.Sublist (claimFirst wanted change limit items).2 := by
  fun_induction claimFirst wanted change limit items with
  | case1 => exact .slnil
  | case2 => exact List.nil_sublist _
  | case3 limit item rest h taken left eq ih =>
    rw [eq] at ih
    exact ih.cons_cons _
  | case4 limit item rest h taken left eq ih =>
    rw [eq] at ih
    exact ih.cons _

end Conveyor
