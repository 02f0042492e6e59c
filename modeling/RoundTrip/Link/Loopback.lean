import RoundTrip.Link.Load
import RoundTrip.Link.Pipe
import RoundTrip.Link.Turns
import RoundTrip.Settings.Basic

/-!
# Both sides over pipes

An initiator and a responder joined by two pipes of the same capacity. A side that
is over closes both pipes: what it wrote can still be read up to the end, and what
is written to it fails.

The writer and the reader of the initiator, the responder and the deadlines of the
requests take turns (`Turns`). A part works until it has to wait for a pipe or has
used up its operations, and wakes those that wait for what it does.
-/

namespace RoundTrip

structure Loopback where
  capacity : Nat
  asking : Asking
  answering : Answering
  requests : Pipe := {}
  replies : Pipe := {}
  /-- Where the responder keeps requests. -/
  requestIntake : Intake := {}
  /-- Where the initiator keeps replies. -/
  replyIntake : Intake := {}
  turns : Turns := {}
deriving DecidableEq, Repr

namespace Loopback

def ofExchanges (initiator responder : Exchange) (capacity : Nat) : Loopback where
  capacity := capacity
  asking := .ofExchange initiator
  answering := .ofExchange responder

/-! ## Taking turns -/

def wake (part : Part) (l : Loopback) : Loopback := { l with turns := l.turns.wake part }

/-- The part whose turn it is has to wait. -/
def rest (l : Loopback) : Loopback := { l with turns := l.turns.rest }

/-- The part whose turn it is has used up its operations. -/
def defer (l : Loopback) : Loopback := { l with turns := l.turns.defer }

/-- The responder is woken by requests and by the end of them. -/
def wakeForRequests (l : Loopback) : Loopback :=
  if l.requests.readerWaits ∧ (l.requests.content ≠ [] ∨ l.requests.closed) then
    { l with requests := { l.requests with readerWaits := false } }.wake .responder
  else l

/-- The reader of the initiator is woken by replies and by the end of them. -/
def wakeForReplies (l : Loopback) : Loopback :=
  if l.replies.readerWaits ∧ (l.replies.content ≠ [] ∨ l.replies.closed) then
    { l with replies := { l.replies with readerWaits := false } }.wake .reader
  else l

/-- The writer of the initiator is woken by room for requests. -/
def wakeForRequestRoom (l : Loopback) : Loopback :=
  if l.requests.writerWaits then
    { l with requests := { l.requests with writerWaits := false } }.wake .writer
  else l

/-- The responder is woken by room for replies. -/
def wakeForReplyRoom (l : Loopback) : Loopback :=
  if l.replies.writerWaits then
    { l with replies := { l.replies with writerWaits := false } }.wake .responder
  else l

/-- Close both pipes, which wakes all that wait for them. -/
def closePipes (l : Loopback) : Loopback :=
  let closed :=
    { l with
      requests := { l.requests with closed := true }
      replies := { l.replies with closed := true } }
  closed.wakeForReplies.wakeForReplyRoom.wakeForRequests.wakeForRequestRoom

/-! ## The initiator -/

/-- A writer in the middle of a frame waits for nothing but its pipe. -/
def writerIsIdle (l : Loopback) : Bool :=
  l.asking.sending.writer.status = .running && l.asking.sending.writer.unsent = []

/-- The writer writes what there is room for. Its end is what the reader may be
waiting for. -/
def writerTurn (l : Loopback) : Loopback :=
  let offered := l.requests.offer l.capacity l.asking.sending.stream
  let (left, asking) := (l.asking.setStream offered).writeWithin Turns.operations
  let (requests, stream) := l.requests.collect asking.sending.stream
  let written := { l with asking := asking.setStream stream, requests }.wakeForRequests
  if asking.sending.writer.status ≠ .running then (written.wake .reader).rest
  else if left = 0 then written.defer
  else
    let writerWaits := !written.writerIsIdle
    { written with requests := { written.requests with writerWaits } }.rest

/-- The initiator is over when the reader and the writer have ended. An idle writer
is woken to see the shutdown. -/
def finishAsking (l : Loopback) : Loopback :=
  let ended := { l with asking := l.asking.finish }
  if ended.asking.status ≠ .running then ended.closePipes
  else if ended.writerIsIdle then ended.wake .writer
  else ended

/-- What the reader makes of what it keeps, which is one frame if no operation is
left. -/
def takeReplies (l : Loopback) : Asking :=
  let start := l.asking.setStream (l.replyIntake.hand l.asking.sending.stream)
  if l.turns.left = 0 then start.readStep?.getD start else start.read

/-- The reader looks at what it keeps. The deadlines of requests that are settled by it
end. -/
def lookAtReplies (l : Loopback) : Loopback :=
  let asking := l.takeReplies
  let settled := l.asking.initiator.pendingCount - asking.initiator.pendingCount
  let looked :=
    { l with
      asking
      replyIntake := l.replyIntake.settled asking.sending.stream.inbox
      turns := l.turns.wakeDeadlines settled }
  if asking.reader ≠ .running then looked.finishAsking.rest
  else if l.turns.left = 0 then looked.defer
  else looked

def readerTurn (l : Loopback) : Loopback :=
  if l.asking.reader ≠ .running then l.finishAsking.rest
  else if l.asking.sending.shutdown ∨ l.replyIntake.isReady then l.lookAtReplies
  else if l.turns.left = 0 then l.defer
  else
    match l.replyIntake.read? l.replies with
    | some (replies, replyIntake) =>
        { l with replies, replyIntake, turns := l.turns.operate }.wakeForReplyRoom
    | none =>
        if l.replies.closed then
          let ended := { l.asking.sending.stream with ended := true }
          { l with asking := l.asking.setStream ended }.lookAtReplies
        else { l with replies := { l.replies with readerWaits := true } }.rest

/-! ## The responder -/

/-- What the responder makes of what it keeps, which it looks at even if no operation
is left for a reply. -/
def answerRequests (l : Loopback) : Nat × Answering :=
  let offered := l.replies.offer l.capacity (l.requestIntake.hand l.answering.stream)
  let start : Answering := { l.answering with stream := offered }
  let begun := if start.unsent = [] then start.step?.getD start else start
  begun.settleWithin l.turns.left

/-- The responder works with what it keeps. -/
def work (l : Loopback) : Loopback :=
  let (left, answering) := l.answerRequests
  let (replies, stream) := l.replies.collect answering.stream
  let worked :=
    { l with
      answering := { answering with stream }
      replies
      requestIntake := l.requestIntake.settled stream.inbox
      turns := { l.turns with left } }.wakeForReplies
  if answering.status ≠ .running then worked.closePipes.rest
  else if left = 0 then worked.defer
  else if answering.unsent ≠ [] then
    { worked with replies := { worked.replies with writerWaits := true } }.rest
  else worked

def responderTurn (l : Loopback) : Loopback :=
  if l.answering.status ≠ .running then l.rest
  else if l.answering.shutdown ∨ l.answering.unsent ≠ [] ∨ l.requestIntake.isReady then l.work
  else if l.turns.left = 0 then l.defer
  else
    match l.requestIntake.read? l.requests with
    | some (requests, requestIntake) =>
        { l with requests, requestIntake, turns := l.turns.operate }.wakeForRequestRoom
    | none =>
        if l.requests.closed then
          let ended := { l.answering.stream with ended := true }
          { l with answering := { l.answering with stream := ended } }.work
        else { l with requests := { l.requests with readerWaits := true } }.rest

/-! ## Together -/

/-- The part whose turn it is does something or has to wait. -/
def step? (l : Loopback) : Option Loopback :=
  match l.turns.awake with
  | [] => none
  | .writer :: _ => some l.writerTurn
  | .reader :: _ => some l.readerTurn
  | .responder :: _ => some l.responderTurn
  | .deadline :: _ => some l.rest

/-- What both sides have left to do, where a byte counts less when it has moved on. -/
def load (l : Loopback) : Nat :=
  l.asking.load (l.answering.share + 2) + l.requests.content.length * (l.answering.share + 2)
    + l.requestIntake.pieces.flatten.length * (l.answering.share + 1) + l.answering.load
    + l.replies.content.length * 3 + l.replyIntake.pieces.flatten.length * 2

/-- Whether the writer goes on. -/
def writes (l : Loopback) : Bool := l.asking.sending.writer.status = .running

/-- A bound for the steps. Each of them leaves less to do or gives up a place, and no
step wakes more parts than what it has done counts for. -/
def bound (l : Loopback) : Nat :=
  16 * l.load + l.asking.initiator.pendingCount + l.turns.cost l.writes

/-- The parts that are awake after something happened from outside: a deadline for
each request that was made, the writer after the first of them, and those that are
to see a shutdown. -/
def wakeParts (l : Loopback) : Loopback :=
  let made := l.asking.initiator.deadlines.fresh.length
  let begun := { l with turns := (Turns.begin).wakeDeadlines (min made 1) }
  let writing :=
    if l.writerIsIdle ∧ (l.asking.sending.shutdown ∨ l.asking.initiator.outbound.queued ≠ []) then
      begun.wake .writer
    else begun
  let reading :=
    if l.asking.sending.shutdown ∧ l.asking.reader = .running then writing.wake .reader
    else writing
  let answering :=
    if l.answering.shutdown ∧ l.answering.status = .running ∧ l.answering.unsent = [] then
      reading.wake .responder
    else reading
  { answering with turns := answering.turns.wakeDeadlines (made - 1) }

def settle (l : Loopback) : Loopback :=
  let woken := l.wakeParts
  let polled := { woken with asking := woken.asking.poll }
  RoundTrip.settle step? polled.bound polled

end Loopback

end RoundTrip
