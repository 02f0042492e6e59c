import RoundTrip.Clock
import RoundTrip.Measurement

/-!
# Outstanding requests

The table of the requests that wait for an outcome. Each entry leaves the table
exactly once, by a reply (`resolve?`), by its deadline (`expire?`) or when the
table is closed (`close?`), and the `Settlement` says what is due then: which
measurement gets which outcome, and which deadline has to be cancelled. A closed
table is empty and stays so.
-/

namespace RoundTrip

structure Entry where
  id : CorrelationId
  sentAt : Nat
  /-- The number of the measurement that waits. -/
  slot : Nat
  /-- The number of the deadline, unless there is nothing to cancel. -/
  deadline : Option Nat
deriving DecidableEq, Repr

structure Outstanding where
  closed : Bool := false
  entries : List Entry := []
deriving DecidableEq, Repr

/-- What is due when an entry has left the table. -/
structure Settlement where
  slot : Nat
  outcome : Outcome
  cancelled : Option Nat
deriving DecidableEq, Repr

/-- Why a request is not taken into the table. -/
inductive Refusal
  | closed
  | duplicate
deriving DecidableEq, Repr

namespace Outstanding

def count (t : Outstanding) : Nat := t.entries.length

def isEmpty (t : Outstanding) : Bool := t.entries.isEmpty

def find? (id : CorrelationId) (t : Outstanding) : Option Entry := t.entries.find? (·.id = id)

def contains (id : CorrelationId) (t : Outstanding) : Bool := (t.find? id).isSome

def erase (id : CorrelationId) (t : Outstanding) : Outstanding :=
  { t with entries := t.entries.filter (·.id ≠ id) }

/-- The reason to refuse a request with this id, if there is one. -/
def refusal? (id : CorrelationId) (t : Outstanding) : Option Refusal :=
  if t.closed then some .closed
  else if t.contains id then some .duplicate
  else none

/-- Take in a request that is not refused. -/
def insert (entry : Entry) (t : Outstanding) : Outstanding :=
  { t with entries := t.entries ++ [entry] }

/-- Settle a request with its reply. -/
def resolve? (id : CorrelationId) (now : Nat) (t : Outstanding) :
    Option (Nat × Settlement × Outstanding) :=
  (t.find? id).map fun entry =>
    let nanos := Clock.elapsed entry.sentAt now
    (nanos, ⟨entry.slot, .answered nanos, entry.deadline⟩, t.erase id)

/-- Settle a request whose deadline has come, which needs no cancelling then. -/
def expire? (id : CorrelationId) (t : Outstanding) : Option (Settlement × Outstanding) :=
  (t.find? id).map fun entry => (⟨entry.slot, .failed .timeout, none⟩, t.erase id)

/-- Settle all requests and close the table, unless it is closed. -/
def close? (t : Outstanding) : Option (List Settlement × Outstanding) :=
  if t.closed then none
  else some
    (t.entries.map fun entry => ⟨entry.slot, .failed .closed, entry.deadline⟩, ⟨true, []⟩)

theorem find?_some {id : CorrelationId} {t : Outstanding} {entry : Entry}
    (found : t.find? id = some entry) : entry ∈ t.entries ∧ entry.id = id :=
  ⟨List.mem_of_find?_eq_some found, by simpa using List.find?_some found⟩

theorem contains_iff {id : CorrelationId} {t : Outstanding} :
    t.contains id = true ↔ ∃ entry ∈ t.entries, entry.id = id := by
  simp [contains, find?]

theorem mem_erase {id : CorrelationId} {t : Outstanding} {entry : Entry} :
    entry ∈ (t.erase id).entries ↔ entry ∈ t.entries ∧ entry.id ≠ id := by
  simp [erase]

end Outstanding

end RoundTrip
