namespace Logbook

/-- The last items of a sequence, at most `capacity` of them, oldest first. -/
structure Tail (α : Type) where
  capacity : Nat
  items : List α
deriving Repr

namespace Tail

variable {α : Type}

def empty (capacity : Nat) : Tail α :=
  { capacity, items := [] }

def size (t : Tail α) : Nat :=
  t.items.length

def isEmpty (t : Tail α) : Bool :=
  t.items.isEmpty

/-- Adds an item, and drops the oldest one when the tail is full. A tail of capacity zero drops
everything. -/
def push (t : Tail α) (x : α) : Tail α :=
  if t.capacity = 0 then t
  else if t.size = t.capacity then { t with items := t.items.tail ++ [x] }
  else { t with items := t.items ++ [x] }

end Tail

end Logbook
