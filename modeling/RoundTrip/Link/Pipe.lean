import RoundTrip.Link.Stream

/-!
# Pipes

A pipe holds the bytes between a writing and a reading side, at most as many as its
capacity. Either side may have to wait for the other one, and closing the pipe from
either side ends it: what it holds can still be read, and nothing can be written.

An `Intake` is where the reading side keeps what it has read. How much of a pipe is
read at once is as much as there is place for.
-/

namespace RoundTrip

structure Pipe where
  content : Bytes := []
  closed : Bool := false
  /-- The reading side found nothing. -/
  readerWaits : Bool := true
  /-- The writing side found no room. -/
  writerWaits : Bool := false
deriving DecidableEq, Repr

namespace Pipe

/-- What the writing side may write. -/
def offer (capacity : Nat) (p : Pipe) (s : Stream) : Stream :=
  { s with
    room := some (capacity - p.content.length)
    writeFailure := if p.closed then some "broken pipe" else none }

/-- Move what was written into the pipe. -/
def collect (p : Pipe) (s : Stream) : Pipe × Stream :=
  ({ p with content := p.content ++ s.written, closed := p.closed || s.writeClosed },
    { s with written := [] })

end Pipe

/-- The size of the frame at the front of a buffer, or of what tells that size. -/
def Frame.wanted : Bytes → Nat
  | a :: b :: c :: d :: _ => overhead + Word.ofBigEndian a b c d
  | _ => overhead

/-- A place for `size` bytes, of which the first `used` hold what was read. The
last `kept` of these have not made a frame yet. -/
structure Intake where
  size : Nat := 8192
  used : Nat := 0
  kept : Nat := 0
  /-- How many bytes are to be kept before it is worth while to look for a frame. -/
  wanted : Nat := Frame.overhead
  /-- What was read since a frame was looked for, the latest first. -/
  pieces : List Bytes := []
deriving DecidableEq, Repr

namespace Intake

/-- The most place that is made at once for bytes of a frame to come. -/
def ahead : Nat := 65536

/-- Make place for more bytes: move what is kept to the front if that is enough and
moves little, and else take a place twice as large. -/
def reserve (more : Nat) (i : Intake) : Intake :=
  if i.used + more ≤ i.size then i
  else if i.kept + more ≤ i.size ∧ 2 * i.kept ≤ i.used then { i with used := i.kept }
  else { i with size := max (2 * i.size) (i.used + more) }

/-- Make place for the rest of the frame that has begun, and for one byte in any
case. -/
def prepare (i : Intake) : Intake :=
  let begun := if Frame.overhead < i.wanted then i.reserve (min (i.wanted - i.kept) ahead) else i
  begun.reserve 1

def room (i : Intake) : Nat := i.size - i.used

def take (piece : Bytes) (i : Intake) : Intake :=
  { i with
    used := i.used + piece.length
    kept := i.kept + piece.length
    pieces := piece :: i.pieces }

/-- Is it worth while to look for a frame? -/
def isReady (i : Intake) : Bool := i.wanted ≤ i.kept

/-- Everything kept, for a reader to look for frames. -/
def hand (i : Intake) (s : Stream) : Stream := s.feed i.pieces.reverse.flatten

/-- What is kept when no more frames are found. -/
def settled (inbox : Bytes) (i : Intake) : Intake :=
  { i with kept := inbox.length, wanted := Frame.wanted inbox, pieces := [] }

/-- Read some of what a pipe holds, if it holds something. -/
def read? (p : Pipe) (i : Intake) : Option (Pipe × Intake) :=
  if p.content = [] then none
  else
    let place := i.prepare
    some ({ p with content := p.content.drop place.room },
      place.take (p.content.take place.room))

end Intake

end RoundTrip
