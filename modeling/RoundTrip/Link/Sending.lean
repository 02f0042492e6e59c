import RoundTrip.Link.Stream

/-!
# Sending

A writer takes payloads from a queue and writes their frames in that order. A
frame that was begun is written to its end before a shutdown is seen, so that the
stream holds whole frames. A payload that is too large and a failing stream end
the writer and ask for a shutdown.
-/

namespace RoundTrip

structure Writer where
  limit : Limit
  queue : List Bytes := []
  /-- What is left of the frame that is being written. -/
  unsent : Bytes := []
  /-- Somebody may still queue payloads. -/
  senders : Bool := true
  status : Status := .running
deriving DecidableEq, Repr

/-- A writer at its stream, and whether a shutdown was asked for. -/
structure Sending where
  writer : Writer
  stream : Stream := {}
  shutdown : Bool := false
deriving DecidableEq, Repr

namespace Writer

/-- Queue a payload, if the writer is there to take it. -/
def enqueue (payload : Bytes) (w : Writer) : Bool × Writer :=
  if w.senders ∧ w.status = .running then (true, { w with queue := w.queue ++ [payload] })
  else (false, w)

end Writer

namespace Sending

/-- The writer ends, and shuts the write side down. -/
def close (status : Status) (s : Sending) : Sending :=
  { s with writer := { s.writer with status, queue := [] }, stream := s.stream.shutWrite }

/-- The writer ends with bytes it cannot get rid of, and the write side stays
open. -/
def breakOff (fault : Fault) (s : Sending) : Sending :=
  { s with writer := { s.writer with status := .failed fault, queue := [] }, shutdown := true }

/-- Write some of the frame that was begun. -/
def write? (s : Sending) : Option Sending :=
  match s.stream.write s.writer.unsent with
  | .waiting => none
  | .failed fault => some (s.breakOff fault)
  | .taken unsent stream => some { s with writer := { s.writer with unsent }, stream }

/-- Begin the next frame, or end if nothing is to follow. -/
def takeNext? (s : Sending) : Option Sending :=
  match s.writer.queue with
  | payload :: queue =>
      match Frame.encode s.writer.limit payload with
      | .ok unsent => some { s with writer := { s.writer with queue, unsent } }
      | .error fault => some { s.close (.failed fault) with shutdown := true }
  | [] => if s.writer.senders then none else some (s.close .finished)

/-- Go on after a frame, unless a shutdown was asked for. -/
def begin? (s : Sending) : Option Sending :=
  if s.shutdown then some (s.close .finished) else s.takeNext?

def step? (s : Sending) : Option Sending :=
  if s.writer.status ≠ .running then none
  else if s.writer.unsent ≠ [] then s.write?
  else s.begin?

/-- Every frame takes two steps, after what is left of an earlier one, and the end
takes one. -/
def settle (s : Sending) : Sending :=
  RoundTrip.settle step? (2 * s.writer.queue.length + 3) s

/-- Taking a payload and writing are operations. -/
def settleWithin (operations : Nat) (s : Sending) : Nat × Sending :=
  RoundTrip.settleWithin step? (fun _ => false) operations operations s

end Sending

end RoundTrip
