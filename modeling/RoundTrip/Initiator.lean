import RoundTrip.Deadlines
import RoundTrip.Ledger
import RoundTrip.Payload
import RoundTrip.Tally

/-!
# The side that asks

An initiator sends requests that may overlap, and settles each of them once: with
its round trip when the reply comes (`onFrame`), with a timeout when its deadline
comes first (`expire`), or with the closing of the connection (`onClose`).

A request is made in steps that nothing can come between: it is entered and armed
(`register`), then its payload is queued and counted (`send`). Closing first closes
the table (`Outstanding.close?`), then delivers and cancels, then shuts the
deadlines down and counts.
-/

namespace RoundTrip

/-- Payloads on their way to the stream. Nobody may be there any more to take
them. -/
structure Outbound where
  listening : Bool := true
  queued : List Bytes := []
deriving DecidableEq, Repr

structure Initiator where
  uploadSize : Nat
  timeout : Nat
  clock : Nat := 0
  ledger : Ledger := {}
  deadlines : Deadlines CorrelationId := {}
  outbound : Outbound := {}
  tally : Tally := {}
deriving DecidableEq, Repr

namespace Initiator

/-- No id was found that is not in use. -/
def exhausted : Fault := .custom "Could not allocate a unique correlation id for the request"

def measurements (i : Initiator) : List Measurement := i.ledger.measurements

def isClosed (i : Initiator) : Bool := i.ledger.table.closed

def pendingCount (i : Initiator) : Nat := i.ledger.table.count

/-! ## Asking -/

/-- A measurement that fails at once. -/
def fail (fault : Fault) (i : Initiator) : Initiator := { i with ledger := i.ledger.fail fault }

/-- Enter a request and arm its deadline. -/
def register (id : CorrelationId) (i : Initiator) : Initiator :=
  let (deadline, deadlines) := i.deadlines.schedule i.timeout id
  { i with deadlines, ledger := i.ledger.enter id i.clock deadline }

/-- Queue the payload of a request and count it, if anybody takes it. -/
def send (id : CorrelationId) (i : Initiator) : Initiator :=
  if i.outbound.listening then
    let payload := Payload.request id i.uploadSize
    { i with
      outbound := { i.outbound with queued := i.outbound.queued ++ [payload] }
      tally := i.tally.requestSent payload.length }
  else i

/-- How many ids are tried for one request. -/
def attempts : Nat := 16

/-- The first id, of those that are drawn, with which the request is not refused. -/
def freeId? (draws : List CorrelationId) (i : Initiator) : Option CorrelationId :=
  (draws.take attempts).find? (i.ledger.table.refusal? · = none)

/-- Ask. Ids are drawn for the request until one of them is not in use. -/
def measure (draws : List CorrelationId) (i : Initiator) : Initiator :=
  if i.isClosed then i.fail .closed
  else
    match i.freeId? draws with
    | none => i.fail exhausted
    | some id => (i.register id).send id

/-! ## Settling -/

/-- Take a frame. One that names no outstanding request is a violation. -/
def onFrame (payload : Bytes) (i : Initiator) : Except Fault Nat × Initiator :=
  let tally := i.tally.frameReceived payload.length
  match CorrelationId.read payload with
  | .error fault => (.error fault, { i with tally := tally.framingError })
  | .ok id =>
      match i.ledger.resolve? id i.clock with
      | none => (.error (.violation id), { i with tally := tally.violation })
      | some (nanos, deadline, ledger) =>
          (.ok nanos,
            { i with
              ledger
              deadlines := i.deadlines.cancel? deadline
              tally := tally.replyMatched nanos })

/-- The deadline of a request has come. A request that is settled ignores it. -/
def expire (i : Initiator) (id : CorrelationId) : Initiator :=
  match i.ledger.expire? id with
  | none => i
  | some ledger => { i with ledger, tally := i.tally.timedOut }

/-- Close, and say how many requests failed by it. -/
def onClose (i : Initiator) : Nat × Initiator :=
  match i.ledger.close? with
  | none => (0, i)
  | some (cancelled, ledger) =>
      let failed := cancelled.length
      (failed,
        { i with
          ledger
          deadlines := (cancelled.foldl (fun ds n => ds.cancel? n) i.deadlines).shutdown
          tally := i.tally.failedOnClose failed })

/-! ## Time -/

/-- Run the deadlines that are due. -/
def poll (i : Initiator) : Initiator :=
  let (due, deadlines) := i.deadlines.poll
  due.foldl expire { i with deadlines }

/-- Run one deadline by hand, and say whether it was there to run. -/
def fire (number : Nat) (i : Initiator) : Bool × Initiator :=
  match i.deadlines.take number with
  | (none, deadlines) => (false, { i with deadlines })
  | (some id, deadlines) => (true, expire { i with deadlines } id)

/-- Run all deadlines that are left by hand, and say how many there were to run. -/
def fireAll (i : Initiator) : Nat × Initiator :=
  (i.deadlines.held.map (·.number)).foldl
    (fun (count, i) number =>
      let (ran, i) := i.fire number
      (if ran then count + 1 else count, i))
    (0, i)

/-- Let time pass for the round trips. -/
def advanceClock (nanos : Nat) (i : Initiator) : Initiator := { i with clock := i.clock + nanos }

/-- Let time pass for the deadlines. -/
def advanceDeadlines (nanos : Nat) (i : Initiator) : Initiator :=
  { i with deadlines := i.deadlines.advance nanos }

/-! ## Losing interest -/

def dropMeasurement (slot : Nat) (i : Initiator) : Initiator :=
  { i with ledger := i.ledger.dropMeasurement slot }

/-- Nobody takes payloads any more. -/
def dropOutbound (i : Initiator) : Initiator := { i with outbound := ⟨false, []⟩ }

/-- Hand over the payloads that are queued. -/
def takeQueued (i : Initiator) : List Bytes × Initiator :=
  (i.outbound.queued, { i with outbound := { i.outbound with queued := [] } })

/-- The initiator goes away without closing. Its deadlines stay where they are and
find nothing to do. -/
def abandon (i : Initiator) : Initiator := { i with ledger := i.ledger.abandon }

end Initiator

end RoundTrip
