import RoundTrip.Initiator
import RoundTrip.Settings.Basic
import RoundTrip.Link.Sending

/-!
# The side that asks, on a stream

An initiator with a reader and a writer on one stream. The reader ends with the
stream, with a fault after which the stream cannot be trusted, or with a shutdown;
then the initiator closes, the writer is asked to end, and when it has ended all
is over. The fault of the reader counts before that of the writer.
-/

namespace RoundTrip

structure Asking where
  limit : Limit
  initiator : Initiator
  sending : Sending
  reader : Status := .running
  status : Status := .running
  /-- How many summaries were given. -/
  summaries : Nat := 0
deriving DecidableEq, Repr

namespace Asking

def ofExchange (e : Exchange) : Asking where
  limit := e.maxFrameSize
  initiator := { uploadSize := e.uploadSize, timeout := e.timeout }
  sending := { writer := { limit := e.maxFrameSize } }

def setStream (stream : Stream) (a : Asking) : Asking :=
  { a with sending := { a.sending with stream } }

/-- Ask for a shutdown. -/
def close (a : Asking) : Asking := { a with sending := { a.sending with shutdown := true } }

/-! ## Reading -/

/-- The reader ends. -/
def stop (reader : Status) (a : Asking) : Asking :=
  { a with initiator := a.initiator.onClose.2, reader }.close

/-- Take one frame. Faults that are not fatal concern this frame only. -/
def takeFrame (payload rest : Bytes) (a : Asking) : Asking :=
  let (result, initiator) := a.initiator.onFrame payload
  let taken := { a with initiator }.setStream { a.sending.stream with inbox := rest }
  match result with
  | .ok _ => taken
  | .error fault => if fault.isFatal then taken.stop (.failed fault) else taken

/-- Look at the stream. -/
def readStream? (a : Asking) : Option Asking :=
  match a.sending.stream.next a.limit with
  | .waiting => none
  | .frame payload rest => some (a.takeFrame payload rest)
  | .finished => some (a.stop .finished)
  | .failed fault => some (a.stop (.failed fault))

/-- Go on reading, unless a shutdown was asked for. -/
def readStep? (a : Asking) : Option Asking :=
  if a.reader ≠ .running then none
  else if a.sending.shutdown then some (a.stop .finished)
  else a.readStream?

/-- Every frame takes some of the bytes that have arrived. -/
def read (a : Asking) : Asking :=
  RoundTrip.settle readStep? (a.sending.stream.inbox.length + 2) a

/-! ## Writing -/

/-- Pass the payloads that are queued on to the writer. -/
def passOn (a : Asking) : Asking :=
  let (queued, initiator) := a.initiator.takeQueued
  let writer := queued.foldl (fun w payload => (w.enqueue payload).2) a.sending.writer
  { a with initiator, sending := { a.sending with writer } }

/-- What the writer has come to. Nobody takes payloads once it has ended. -/
def setSending (sending : Sending) (a : Asking) : Asking :=
  let initiator :=
    if sending.writer.status = .running then a.initiator else a.initiator.dropOutbound
  { a with sending, initiator }

def write (a : Asking) : Asking :=
  let passed := a.passOn
  passed.setSending passed.sending.settle

/-- Write with so many operations at most, and say how many are left. -/
def writeWithin (operations : Nat) (a : Asking) : Nat × Asking :=
  let passed := a.passOn
  let (left, sending) := passed.sending.settleWithin operations
  (left, passed.setSending sending)

/-! ## Both -/

/-- All is over when the reader and the writer have ended. -/
def finish (a : Asking) : Asking :=
  if a.status = .running ∧ a.reader ≠ .running ∧ a.sending.writer.status ≠ .running then
    { a with
      status := a.reader.and a.sending.writer.status
      summaries := a.summaries + 1 }
  else a

/-- Run the deadlines that are due. -/
def poll (a : Asking) : Asking := { a with initiator := a.initiator.poll }

def settle (a : Asking) : Asking := a.poll.write.read.write.finish

end Asking

end RoundTrip
