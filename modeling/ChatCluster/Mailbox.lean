/-!
# Mailboxes

A bounded queue between two parties. The sender never waits: an item is either taken or refused,
and of the two reasons for refusal that the receiver is gone outweighs that the queue is full.
What was queued when the receiver left stays where it is and is never read.

Sessions, inboxes and bus subscriptions all are mailboxes.

## Main definitions

* `Mailbox`: The queue.
* `Mailbox.offer`: Puts an item at the end.
* `Mailbox.take?`: Takes the item at the front.
* `OfferError`: Why an item was refused.

## Theorems

* `offer_eq_ok_iff`: An item is taken exactly when the receiver is there and there is room.
-/

namespace ChatCluster

/-- Why an item was refused. -/
inductive OfferError where
  /-- The receiver is gone. -/
  | closed
  /-- There is no room. -/
  | full
  deriving DecidableEq, Repr

/-- A bounded queue. -/
structure Mailbox (α : Type) where
  /-- What is queued, oldest first. -/
  items : List α
  /-- How much may be queued. -/
  capacity : Nat
  /-- The receiver is there. -/
  receiving : Bool
  /-- There may be more to come. -/
  sending : Bool
  deriving Repr

namespace Mailbox

variable {α : Type}

/-- An empty mailbox with room for one item at least. -/
def new (capacity : Nat) : Mailbox α :=
  { items := [], capacity := max 1 capacity, receiving := true, sending := true }

/-- Puts an item at the end. -/
def offer (box : Mailbox α) (item : α) : Except OfferError (Mailbox α) :=
  if !box.receiving then .error .closed
  else if box.capacity ≤ box.items.length then .error .full
  else .ok { box with items := box.items ++ [item] }

/-- Takes the item at the front. -/
def take? (box : Mailbox α) : Option (α × Mailbox α) :=
  match box.items with
  | [] => none
  | item :: rest => some (item, { box with items := rest })

/-- The mailbox with nothing queued. -/
def emptied (box : Mailbox α) : Mailbox α :=
  { box with items := [] }

/-- The receiver leaves. -/
def closeReceiver (box : Mailbox α) : Mailbox α :=
  { box with receiving := false }

/-- The sender leaves; what is queued can still be read. -/
def closeSender (box : Mailbox α) : Mailbox α :=
  { box with sending := false }

/-- There is room for another item. -/
def hasRoom (box : Mailbox α) : Bool :=
  box.items.length < box.capacity

theorem offer_eq_ok_iff (box box' : Mailbox α) (item : α) :
    box.offer item = .ok box' ↔
      box.receiving ∧ box.items.length < box.capacity ∧
        box' = { box with items := box.items ++ [item] } := by
  unfold offer
  by_cases hr : box.receiving <;> by_cases hc : box.capacity ≤ box.items.length
  · simp [hr, hc, Nat.not_lt.2 hc]
  · simp [hr, hc, eq_comm, Nat.lt_of_not_le hc]
  · simp [hr]
  · simp [hr]

end Mailbox

end ChatCluster
