import RoundTrip.Link.Answering
import RoundTrip.Link.Asking

/-!
# What is left to do

Both sides have so much to do with the bytes that have arrived and that are to be
sent, and every step of either of them leaves less. A byte counts the more the
further it still has to go.
-/

namespace RoundTrip

/-- Whoever runs has still to end. -/
def Status.load (s : Status) : Nat := if s = .running then 1 else 0

/-- Payloads whose frames are still to be written, where a byte counts so much. -/
def Payload.load (byte : Nat) : List Bytes → Nat
  | [] => 0
  | payload :: payloads => (Frame.overhead + payload.length) * byte + 1 + load byte payloads

/-- What the writer has left to do, where a byte counts more until it is written. -/
def Sending.load (byte : Nat) (s : Sending) : Nat :=
  Payload.load (byte + 1) s.writer.queue + s.writer.unsent.length * (byte + 1)
    + s.stream.written.length * byte + s.writer.status.load

def Asking.load (byte : Nat) (a : Asking) : Nat :=
  Payload.load (byte + 1) a.initiator.outbound.queued + a.sending.load byte
    + a.sending.stream.inbox.length + a.reader.load + a.status.load

/-- A byte of a request counts more than all that is answered to it. -/
def Answering.share (a : Answering) : Nat :=
  4 * (Frame.overhead + Payload.totalLength a.responder.downloadSize) + 1

def Answering.load (a : Answering) : Nat :=
  a.stream.inbox.length * a.share + a.unsent.length * 4 + a.stream.written.length * 3
    + a.status.load

end RoundTrip
