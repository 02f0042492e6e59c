/-!
# Readings of a clock

Times are nanoseconds on one scale. A clock that is moved by hand is read once at
the start and once after each move; the time between two readings is never
negative.
-/

namespace RoundTrip.Clock

/-- The time from `sent` to `now`, zero if `now` is the earlier one. -/
def elapsed (sent now : Nat) : Nat := now - sent

/-- The readings of a clock that starts at `start` and is moved step by step. -/
def readings (start : Nat) : List Nat → List Nat
  | [] => [start]
  | step :: steps => start :: readings (start + step) steps

end RoundTrip.Clock
