import RoundTrip.Payload
import RoundTrip.Tally

/-!
# The side that answers

A responder keeps nothing but its counters: each request is answered on its own,
and a request without a correlation prefix is counted and dropped.
-/

namespace RoundTrip

structure Responder where
  downloadSize : Nat
  tally : Tally := {}
deriving DecidableEq, Repr

namespace Responder

/-- Count a request in. -/
def receive (request : Bytes) (r : Responder) : Responder :=
  { r with tally := r.tally.frameReceived request.length }

/-- Answer one request. The reply counts as sent only once it was written. -/
def reply (request : Bytes) (r : Responder) : Except Fault Bytes × Responder :=
  let received := r.receive request
  match Payload.reply request r.downloadSize with
  | .ok reply => (.ok reply, received)
  | .error fault => (.error fault, { received with tally := received.tally.framingError })

def replySent (size : Nat) (r : Responder) : Responder :=
  { r with tally := r.tally.replySent size }

end Responder

end RoundTrip
