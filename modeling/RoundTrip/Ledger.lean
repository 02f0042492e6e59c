import RoundTrip.Outstanding

/-!
# The ledger of requests

The outstanding requests together with the measurements that wait for them. A
request is entered once, with the number of its measurement, and struck out once:
its measurement gets the outcome, and whoever strikes it out learns which deadline
there is to cancel.
-/

namespace RoundTrip

structure Ledger where
  table : Outstanding := {}
  measurements : List Measurement := []
deriving DecidableEq, Repr

namespace Ledger

/-- Note a request that failed at once. -/
def fail (fault : Fault) (l : Ledger) : Ledger :=
  { l with measurements := l.measurements ++ [.failed fault] }

/-- Enter a request that is not refused. -/
def enter (id : CorrelationId) (sentAt : Nat) (deadline : Option Nat) (l : Ledger) : Ledger where
  table := l.table.insert ⟨id, sentAt, l.measurements.length, deadline⟩
  measurements := l.measurements ++ [.waiting id]

/-- Deliver an outcome to the measurement that waits for it. -/
def deliver (l : Ledger) (s : Settlement) : Ledger :=
  { l with measurements := l.measurements.modify s.slot (·.deliver s.outcome) }

/-- Strike out the request that a reply names: its round trip, the deadline to
cancel, and the ledger that is left. -/
def resolve? (id : CorrelationId) (now : Nat) (l : Ledger) :
    Option (Nat × Option Nat × Ledger) :=
  (l.table.resolve? id now).map fun (nanos, settlement, table) =>
    (nanos, settlement.cancelled, { l with table }.deliver settlement)

/-- Strike out a request whose deadline has come. -/
def expire? (id : CorrelationId) (l : Ledger) : Option Ledger :=
  (l.table.expire? id).map fun (settlement, table) => { l with table }.deliver settlement

/-- Strike out all requests and enter no more: for each of them the deadline to
cancel, and the ledger that is left. -/
def close? (l : Ledger) : Option (List (Option Nat) × Ledger) :=
  l.table.close?.map fun (settlements, table) =>
    (settlements.map (·.cancelled), settlements.foldl deliver { l with table })

/-- The caller drops a measurement. -/
def dropMeasurement (slot : Nat) (l : Ledger) : Ledger :=
  { l with measurements := l.measurements.modify slot (·.drop) }

/-- The ledger goes away. Whoever still waits learns that the connection is
closed. -/
def abandon (l : Ledger) : Ledger where
  table := { l.table with entries := [] }
  measurements := l.measurements.map (·.deliver (.failed .closed))

end Ledger

end RoundTrip
