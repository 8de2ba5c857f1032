import RunTriage.Instant

/-!
Contract: a bounded collection of the newest dated items.

Owns:
- insertion by date, which drops the oldest items beyond the capacity;
- removal of items.

Does not own: what the items are.
-/

namespace RunTriage

/-- Dated items, newest first. Of equal dates the one that came first stands first. -/
structure Newest (α : Type) where
  /-- The greatest number of items. -/
  capacity : Nat
  entries : List (Instant × α)
deriving DecidableEq, Repr, Inhabited

namespace Newest

variable {α : Type}

/-- No items yet. Room for items is taken as they come: no capacity is refused, also not one for
which no memory could be set aside. -/
def empty (capacity : Nat) : Newest α := ⟨capacity, []⟩

/-- Put an item before the first that is older. -/
def insertByDate (date : Instant) (item : α) : List (Instant × α) → List (Instant × α)
  | [] => [(date, item)]
  | entry :: rest =>
    if entry.1.isBefore date then (date, item) :: entry :: rest
    else entry :: insertByDate date item rest

/-- Number of items before the first that is older than a date. -/
def positionOf (date : Instant) (entries : List (Instant × α)) : Nat :=
  (entries.takeWhile fun entry => !entry.1.isBefore date).length

/-- There is no room for an item of this date. -/
def refuses (newest : Newest α) (date : Instant) : Bool :=
  newest.capacity ≤ positionOf date newest.entries

/-- The collection with one more item, unless there is no room for it. -/
def push (newest : Newest α) (date : Instant) (item : α) : Newest α :=
  if newest.refuses date then newest
  else
    { newest with entries := (insertByDate date item newest.entries).take newest.capacity }

/-- The collection without the items that do not satisfy a condition. -/
def retain (newest : Newest α) (keep : α → Bool) : Newest α :=
  { newest with entries := newest.entries.filter fun entry => keep entry.2 }

/-- Items, newest first. -/
def items (newest : Newest α) : List α :=
  newest.entries.map Prod.snd

def size (newest : Newest α) : Nat := newest.entries.length

def isEmpty (newest : Newest α) : Bool := newest.entries.isEmpty

end Newest

end RunTriage
