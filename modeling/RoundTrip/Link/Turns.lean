/-!
# Turns

Parts that are awake take turns in the order in which they were woken. A turn has a
number of operations, and a part that has used them up steps back: it is called
again when no other part is awake, or after a round of turns, and of those that
stepped back the last one comes first.
-/

namespace RoundTrip

inductive Part
  /-- The deadline of a request, which begins or ends. -/
  | deadline
  | writer
  | reader
  | responder
deriving DecidableEq, Repr

/-- What the place of a part counts for. A reader may have to wake a writer that goes
on, and a writer that has ended wakes the reader. -/
def Part.cost (writes : Bool) : Part → Nat
  | .reader => if writes then 3 else 1
  | .writer => 2
  | .deadline | .responder => 1

def Part.costs (writes : Bool) : List Part → Nat
  | [] => 0
  | part :: parts => part.cost writes + costs writes parts

structure Turns where
  /-- Whose turn it is, and who comes after. -/
  awake : List Part := []
  /-- Who has stepped back, the last one first. -/
  deferred : List Part := []
  /-- How many operations are left of this turn. -/
  left : Nat := 0
  /-- How many turns were taken of this round. -/
  taken : Nat := 0
deriving DecidableEq, Repr

namespace Turns

/-- The operations of a turn. -/
def operations : Nat := 128

/-- The turns of a round. -/
def round : Nat := 61

/-- Nobody is awake yet. -/
def begin : Turns where
  left := operations

/-- Wake a part. One that is awake or has stepped back keeps its place. -/
def wake (part : Part) (t : Turns) : Turns :=
  if part ∈ t.awake ∨ part ∈ t.deferred then t else { t with awake := t.awake ++ [part] }

/-- Every deadline takes a turn of its own. -/
def wakeDeadlines (count : Nat) (t : Turns) : Turns :=
  { t with awake := t.awake ++ List.replicate count .deadline }

/-- Use up one operation. -/
def operate (t : Turns) : Turns := { t with left := t.left - 1 }

/-- Call those that have stepped back, if it is time. -/
def callBack (t : Turns) : Turns :=
  if t.awake = [] ∨ round ≤ t.taken then
    { t with awake := t.awake ++ t.deferred, deferred := [], taken := 0 }
  else t

/-- The part whose turn it is goes to sleep. -/
def rest (t : Turns) : Turns :=
  { t with awake := t.awake.tail, left := operations, taken := t.taken + 1 }.callBack

/-- The part whose turn it is steps back. -/
def defer (t : Turns) : Turns :=
  { t with deferred := t.awake.take 1 ++ t.deferred }.rest

/-- What the places of all parts count for, and the operations that were used. -/
def cost (writes : Bool) (t : Turns) : Nat :=
  Part.costs writes (t.awake ++ t.deferred) + (operations - t.left)

/-- A part that was woken has a place. -/
theorem mem_wake (part : Part) (t : Turns) :
    part ∈ (t.wake part).awake ∨ part ∈ (t.wake part).deferred := by
  unfold wake
  split
  case isTrue known => exact known
  case isFalse => simp

/-- Nobody is lost by calling those that have stepped back. -/
theorem mem_callBack (part : Part) (t : Turns) :
    part ∈ t.callBack.awake ∨ part ∈ t.callBack.deferred ↔ part ∈ t.awake ∨ part ∈ t.deferred := by
  unfold callBack
  split <;> simp

end Turns

end RoundTrip
