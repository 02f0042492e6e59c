import RoundTrip.Link.Answering
import RoundTrip.Link.Asking
import RoundTrip.Proofs.Initiator.Balance

/-!
# Two peers

An initiator and a responder of one exchange, joined by a stream of bytes in each
direction. Callers, the writer and the reader of the initiator, the responder, the
deadlines and the streams take single steps in any order (`Peers.run`), until a side has
closed. A request is entered in one step and queued in another one; when nothing comes
between, the two are a measurement (`Initiator.measure_eq_enter?`).
-/

namespace RoundTrip

namespace Initiator

/-- The first step of a measurement: enter a request, if an id is found for it. -/
def enter? (draws : List CorrelationId) (i : Initiator) : Option CorrelationId × Initiator :=
  if i.isClosed then (none, i.fail .closed)
  else
    match i.freeId? draws with
    | none => (none, i.fail exhausted)
    | some id => (some id, i.register id)

/-- A measurement enters a request and then queues it. -/
theorem measure_eq_enter? (draws : List CorrelationId) (i : Initiator) :
    i.measure draws =
      match i.enter? draws with
      | (none, failed) => failed
      | (some id, entered) => entered.send id := by
  rw [measure, enter?]
  split
  · rfl
  · cases i.freeId? draws <;> rfl

/-- The measurement that a frame settles, and the frame. -/
def settling? (payload : Bytes) (i : Initiator) : Option (Nat × Bytes) :=
  match CorrelationId.read payload with
  | .error _ => none
  | .ok id => (i.ledger.table.find? id).map fun entry => (entry.slot, payload)

end Initiator

/-- What has happened to requests and replies, in this order. -/
structure Trail where
  /-- The requests that were queued, each with the number of its measurement. -/
  asked : List (Nat × Bytes) := []
  /-- The requests that the responder has taken, each with its reply. -/
  served : List (Bytes × Bytes) := []
  /-- The replies that have settled a measurement, each with its number. -/
  settled : List (Nat × Bytes) := []
  /-- The deadlines that have fired. -/
  fired : List Nat := []
deriving DecidableEq, Repr

/-- What a side has written is on the wire until it is carried to the other side. -/
structure Peers where
  asking : Asking
  answering : Answering
  /-- The requests that are entered and not queued yet. -/
  calls : List Call := []
  trail : Trail := {}
deriving DecidableEq, Repr

inductive Move
  /-- A caller enters a request, with ids as they are drawn. -/
  | enter (draws : List CorrelationId)
  /-- The caller queues it. -/
  | queue (call : Call)
  /-- The writer makes a step. -/
  | write
  /-- So many bytes reach the responder. -/
  | carryRequests (count : Nat)
  /-- The responder makes a step. -/
  | answer
  /-- So many bytes reach the initiator. -/
  | carryReplies (count : Nat)
  /-- The reader makes a step. -/
  | read
  /-- A deadline fires, if it is armed. -/
  | fire (number : Nat)
  /-- Time passes. -/
  | advance (nanos : Nat)
  /-- There is room for so many bytes of requests, or for any number. -/
  | requestRoom (room : Option Nat)
  /-- There is room for so many bytes of replies, or for any number. -/
  | replyRoom (room : Option Nat)
deriving DecidableEq, Repr

namespace Peers

def ofExchange (e : Exchange) : Peers where
  asking := .ofExchange e
  answering := .ofExchange e

/-- Neither side has closed. -/
def isOpen (p : Peers) : Bool := p.asking.reader = .running && p.answering.status = .running

def enter (draws : List CorrelationId) (p : Peers) : Peers :=
  let (id, initiator) := p.asking.initiator.enter? draws
  { p with
    asking.initiator := initiator
    calls := p.calls ++ (id.map (⟨p.asking.initiator.measurements.length, ·⟩)).toList }

def queue (call : Call) (p : Peers) : Peers :=
  { p with
    asking.initiator := p.asking.initiator.send call.id
    calls := p.calls.erase call
    trail.asked := p.trail.asked ++
      [(call.slot, Payload.request call.id p.asking.initiator.uploadSize)] }

def carryRequests (count : Nat) (p : Peers) : Peers :=
  let sent := p.asking.sending.stream.written
  { p with
    asking.sending.stream.written := sent.drop count
    answering.stream := p.answering.stream.feed (sent.take count) }

/-- The request that the responder takes next, and its reply. -/
def serving? (p : Peers) : Option (Bytes × Bytes) :=
  match p.answering.unsent, p.answering.stream.next p.answering.limit with
  | [], .frame request _ =>
      (p.answering.responder.reply request).1.toOption.map fun reply => (request, reply)
  | _, _ => none

def answer (p : Peers) : Peers :=
  match p.answering.step? with
  | none => p
  | some answering => { p with answering, trail.served := p.trail.served ++ p.serving?.toList }

def carryReplies (count : Nat) (p : Peers) : Peers :=
  let sent := p.answering.stream.written
  { p with
    answering.stream.written := sent.drop count
    asking.sending.stream := p.asking.sending.stream.feed (sent.take count) }

/-- The measurement that the reader settles next, and the reply. -/
def settling? (p : Peers) : Option (Nat × Bytes) :=
  match p.asking.sending.stream.next p.asking.limit with
  | .frame payload _ => p.asking.initiator.settling? payload
  | _ => none

def read (p : Peers) : Peers :=
  match p.asking.readStep? with
  | none => p
  | some asking => { p with asking, trail.settled := p.trail.settled ++ p.settling?.toList }

def fire (number : Nat) (p : Peers) : Peers :=
  let (fired, initiator) := p.asking.initiator.fire number
  { p with
    asking.initiator := initiator
    trail.fired := if fired then p.trail.fired ++ [number] else p.trail.fired }

def step (p : Peers) : Move → Peers
  | .enter draws => p.enter draws
  | .queue call => if call ∈ p.calls then p.queue call else p
  | .write => { p with asking := (p.asking.writeWithin 1).2 }
  | .carryRequests count => p.carryRequests count
  | .answer => p.answer
  | .carryReplies count => p.carryReplies count
  | .read => p.read
  | .fire number => p.fire number
  | .advance nanos => { p with asking.initiator := p.asking.initiator.advanceClock nanos }
  | .requestRoom room => { p with asking.sending.stream.room := room }
  | .replyRoom room => { p with answering.stream.room := room }

/-- Once a side has closed, nothing more is looked at. -/
def act (p : Peers) (move : Move) : Peers := if p.isOpen then p.step move else p

def run (p : Peers) (moves : List Move) : Peers := moves.foldl act p

/-- The bytes on their way to the responder, from those that it keeps to those that are
not written yet. -/
def toResponder (p : Peers) : Bytes :=
  p.answering.stream.inbox ++ p.asking.sending.stream.written ++ p.asking.sending.writer.unsent

/-- The bytes on their way to the initiator. -/
def toInitiator (p : Peers) : Bytes :=
  p.asking.sending.stream.inbox ++ p.answering.stream.written ++ p.answering.unsent

/-- All payloads that are queued, on the way or being answered. -/
def inFlight (p : Peers) : List Bytes :=
  (Frame.drain p.asking.limit p.toInitiator).frames ++
    (Frame.drain p.answering.limit p.toResponder).frames ++
    p.asking.sending.writer.queue ++ p.asking.initiator.outbound.queued

end Peers

end RoundTrip
