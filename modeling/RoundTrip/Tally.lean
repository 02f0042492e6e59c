/-!
# Tally of a stream

Ten counters of 64 bits that wrap. A matched reply adds its round trip in whole
microseconds, bounded by what a counter holds, so that the mean is a quotient of
two counters.
-/

namespace RoundTrip

structure Tally where
  requestsSent : UInt64 := 0
  repliesReceived : UInt64 := 0
  repliesSent : UInt64 := 0
  timeouts : UInt64 := 0
  closedFailures : UInt64 := 0
  violations : UInt64 := 0
  framingErrors : UInt64 := 0
  bytesSent : UInt64 := 0
  bytesReceived : UInt64 := 0
  roundTripMicros : UInt64 := 0
deriving DecidableEq, Repr

namespace Tally

/-- The largest value of a counter. -/
def ceiling : Nat := UInt64.size - 1

/-- What a round trip of `nanos` nanoseconds adds to the sum. -/
def micros (nanos : Nat) : Nat := min (nanos / 1000) ceiling

def requestSent (size : Nat) (t : Tally) : Tally :=
  { t with requestsSent := t.requestsSent + 1, bytesSent := t.bytesSent + UInt64.ofNat size }

def replySent (size : Nat) (t : Tally) : Tally :=
  { t with repliesSent := t.repliesSent + 1, bytesSent := t.bytesSent + UInt64.ofNat size }

def frameReceived (size : Nat) (t : Tally) : Tally :=
  { t with bytesReceived := t.bytesReceived + UInt64.ofNat size }

def replyMatched (nanos : Nat) (t : Tally) : Tally :=
  { t with
    repliesReceived := t.repliesReceived + 1
    roundTripMicros := t.roundTripMicros + UInt64.ofNat (micros nanos) }

def timedOut (t : Tally) : Tally :=
  { t with timeouts := t.timeouts + 1 }

def failedOnClose (count : Nat) (t : Tally) : Tally :=
  { t with closedFailures := t.closedFailures + UInt64.ofNat count }

def violation (t : Tally) : Tally :=
  { t with violations := t.violations + 1 }

def framingError (t : Tally) : Tally :=
  { t with framingErrors := t.framingErrors + 1 }

/-- The mean round trip in whole microseconds, once a reply was matched, where the quotient is
taken by `divide`. -/
def meanBy {m : Type → Type} [Monad m] (divide : UInt64 → UInt64 → m UInt64) (t : Tally) :
    m (Option UInt64) := do
  if t.repliesReceived = 0 then return none
  else return some (← divide t.roundTripMicros t.repliesReceived)

/-- The mean round trip in whole microseconds, once a reply was matched. -/
def mean? (t : Tally) : Option UInt64 :=
  Id.run (t.meanBy fun total count => pure (total / count))

theorem mean?_eq (t : Tally) :
    t.mean? =
      if t.repliesReceived = 0 then none else some (t.roundTripMicros / t.repliesReceived) := by
  rw [mean?, meanBy]
  split <;> rfl

/-- The counters that a summary shows, by name. -/
def shown (t : Tally) : List (String × UInt64) :=
  [("requests_sent", t.requestsSent), ("replies_received", t.repliesReceived),
    ("replies_sent", t.repliesSent), ("timeouts", t.timeouts),
    ("closed_failures", t.closedFailures), ("protocol_violations", t.violations),
    ("framing_errors", t.framingErrors), ("bytes_sent", t.bytesSent),
    ("bytes_received", t.bytesReceived)]

/-- All counters by name. -/
def counters (t : Tally) : List (String × UInt64) :=
  t.shown ++ [("round_trip_micros", t.roundTripMicros)]

/-- The closing summary: the counters shown, and the mean if there is one. -/
def summary (t : Tally) : List (String × UInt64) :=
  t.shown ++ (t.mean?.map fun mean => ("mean_rtt_us", mean)).toList

end Tally

end RoundTrip
