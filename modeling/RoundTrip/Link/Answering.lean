import RoundTrip.Link.Stream
import RoundTrip.Responder
import RoundTrip.Settings.Basic

/-!
# The side that answers, on a stream

A responder on a stream answers the frames one after the other: a reply is written
to its end before the next request is taken, and before a shutdown is seen. A
request that cannot be answered is passed over.
-/

namespace RoundTrip

structure Answering where
  limit : Limit
  responder : Responder
  stream : Stream := {}
  shutdown : Bool := false
  /-- What is left of the reply that is being written. -/
  unsent : Bytes := []
  /-- The size of that reply. -/
  replying : Nat := 0
  status : Status := .running
  /-- How many summaries were given. -/
  summaries : Nat := 0
deriving DecidableEq, Repr

namespace Answering

def ofExchange (e : Exchange) : Answering where
  limit := e.maxFrameSize
  responder := { downloadSize := e.downloadSize }

/-- A responder cannot ask. -/
def refusal : Fault := .unsupported "This is a perf responder only"

/-- Ask for a shutdown. -/
def close (a : Answering) : Answering := { a with shutdown := true }

/-- The responder ends. With bytes that it cannot get rid of, the write side stays
open. -/
def stop (status : Status) (a : Answering) : Answering :=
  { a with
    status
    stream := if a.unsent = [] then a.stream.shutWrite else a.stream
    shutdown := true
    summaries := a.summaries + 1 }

/-- Write some of the reply, which counts as sent when it is written. -/
def write? (a : Answering) : Option Answering :=
  match a.stream.write a.unsent with
  | .waiting => none
  | .failed fault => some (a.stop (.failed fault))
  | .taken unsent stream =>
      let responder := if unsent = [] then a.responder.replySent a.replying else a.responder
      some { a with unsent, stream, responder }

/-- Take one request and begin its reply. -/
def takeFrame (payload rest : Bytes) (a : Answering) : Answering :=
  let (answer, responder) := a.responder.reply payload
  let taken := { a with responder, stream := { a.stream with inbox := rest } }
  match answer with
  | .error _ => taken
  | .ok reply =>
      match Frame.encode a.limit reply with
      | .ok unsent => { taken with unsent, replying := reply.length }
      | .error fault => taken.stop (.failed fault)

def read? (a : Answering) : Option Answering :=
  if a.shutdown then some (a.stop .finished)
  else
    match a.stream.next a.limit with
    | .waiting => none
    | .frame payload rest => some (a.takeFrame payload rest)
    | .finished => some (a.stop .finished)
    | .failed fault => some (a.stop (.failed fault))

def step? (a : Answering) : Option Answering :=
  if a.status ≠ .running then none
  else if a.unsent ≠ [] then a.write?
  else a.read?

/-- Every request takes two steps and some of the bytes that have arrived. -/
def settle (a : Answering) : Answering :=
  RoundTrip.settle step? (2 * a.stream.inbox.length + 4) a

/-- Writing is an operation, and taking a request is free. -/
def settleWithin (operations : Nat) (a : Answering) : Nat × Answering :=
  RoundTrip.settleWithin step? (·.unsent = []) (2 * a.stream.inbox.length + operations + 4)
    operations a

end Answering

end RoundTrip
