import RoundTrip.Fault

/-!
# Measurements

A measurement is what a caller holds of a request: it waits for an outcome, has
one, or was dropped by the caller. An outcome is never replaced, and a dropped
measurement takes none (`Progress.deliver`).
-/

namespace RoundTrip

/-- How a request ended. A round trip is counted in nanoseconds. -/
inductive Outcome
  | answered (nanos : Nat)
  | failed (fault : Fault)
deriving DecidableEq, Repr

inductive Progress
  | pending
  | settled (outcome : Outcome)
  | dropped
deriving DecidableEq, Repr

namespace Progress

def deliver (outcome : Outcome) : Progress → Progress
  | pending => settled outcome
  | other => other

/-- The caller loses interest. An outcome that is there already stays. -/
def drop : Progress → Progress
  | pending => dropped
  | other => other

theorem deliver_dropped (late : Outcome) : dropped.deliver late = dropped := rfl

/-- Of two outcomes the first one stays. -/
theorem deliver_deliver (first late : Outcome) (p : Progress) :
    (p.deliver first).deliver late = p.deliver first := by
  cases p <;> rfl

end Progress

/-- A request that failed at once has no id. -/
structure Measurement where
  id : Option CorrelationId
  progress : Progress
  /-- The caller has not dropped it. -/
  held : Bool := true
deriving DecidableEq, Repr

namespace Measurement

def failed (fault : Fault) : Measurement where
  id := none
  progress := .settled (.failed fault)

/-- A measurement that waits for an outcome. -/
def waiting (id : CorrelationId) : Measurement where
  id := some id
  progress := .pending

def deliver (outcome : Outcome) (m : Measurement) : Measurement :=
  { m with progress := m.progress.deliver outcome }

/-- The caller loses interest. -/
def drop (m : Measurement) : Measurement := { m with progress := m.progress.drop, held := false }

/-- Asking a second time for the outcome of a request that failed at once: the
cause has been handed out, and the connection counts as closed. -/
def again? (m : Measurement) : Option Outcome :=
  if m.held ∧ m.id.isNone then some (.failed .closed) else none

end Measurement

end RoundTrip
