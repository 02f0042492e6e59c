import RoundTrip.Link.Answering
import RoundTrip.Proofs.Link.Stream

/-!
# Steps of the answering side

What a step of the responder can do on a stream on which nothing fails, while nobody has
asked for a shutdown (`step?_cases`), how the responder ends (`Ends`), and what becomes of
a request that is taken (`takeFrame_of_short`, `takeFrame_of_long`).
-/

namespace RoundTrip

namespace Answering

/-! ## What a step can do -/

/-- How a responder ends that finds no request in what is left of its stream. -/
inductive Ends (limit : Limit) (ended : Bool) (inbox : Bytes) : Status → Prop
  | finished : ended = true → inbox = [] → Ends limit ended inbox .finished
  | truncated : ended = true → Frame.Unfinished limit inbox → inbox ≠ [] →
      Ends limit ended inbox (.failed .truncated)
  | oversized {size : Nat} : Frame.Oversized limit size inbox →
      Ends limit ended inbox (.failed (.oversized size))

namespace Ends

variable {limit : Limit} {ended : Bool} {inbox : Bytes} {status : Status}

theorem ne_running (ends : Ends limit ended inbox status) : status ≠ .running := by
  rintro rfl
  cases ends

/-- What is left says that no more requests are there. -/
theorem holds_none (ends : Ends limit ended inbox status) :
    Frame.Unfinished limit inbox ∨ ∃ size, Frame.Oversized limit size inbox := by
  cases ends with
  | finished _ empty => exact .inl (empty ▸ Frame.unfinished_nil limit)
  | truncated _ unfinished => exact .inl unfinished
  | oversized tooLarge => exact .inr ⟨_, tooLarge⟩

theorem eq_of_oversized (ends : Ends limit ended inbox status) {size : Nat}
    (tooLarge : Frame.Oversized limit size inbox) : status = .failed (.oversized size) := by
  cases ends with
  | finished _ empty =>
      exact absurd (empty ▸ tooLarge) ((Frame.unfinished_nil limit).not_oversized size)
  | truncated _ unfinished => exact absurd tooLarge (unfinished.not_oversized size)
  | oversized first => rw [first.1.unique tooLarge.1]

theorem eq_of_unfinished (ends : Ends limit ended inbox status)
    (unfinished : Frame.Unfinished limit inbox) :
    status = if inbox = [] then .finished else .failed .truncated := by
  cases ends with
  | finished _ empty => rw [if_pos empty]
  | truncated _ _ more => rw [if_neg more]
  | oversized tooLarge => exact absurd tooLarge (unfinished.not_oversized _)

/-- Bytes that follow come before the end of the stream, and then a responder has ended
only if a request was too large. -/
theorem append (ends : Ends limit ended inbox status) {piece : Bytes}
    (comes : ended = false ∨ piece = []) : Ends limit ended (inbox ++ piece) status := by
  rcases comes with rfl | rfl
  · cases ends with
    | finished atEnd => cases atEnd
    | truncated atEnd => cases atEnd
    | oversized tooLarge => exact .oversized (tooLarge.append piece)
  · rwa [List.append_nil]

theorem atEnd (ends : Ends limit ended inbox status) : Ends limit true inbox status := by
  cases ends with
  | finished _ empty => exact .finished rfl empty
  | truncated _ unfinished more => exact .truncated rfl unfinished more
  | oversized tooLarge => exact .oversized tooLarge

end Ends

/-- Write as much of the reply as there is room for. -/
def afterWrite (a : Answering) : Answering :=
  let (unsent, stream) := a.stream.accept a.unsent
  let responder := if unsent = [] then a.responder.replySent a.replying else a.responder
  { a with unsent, stream, responder }

variable {a next : Answering}

theorem write?_of_intact (intact : a.stream.Intact) :
    a.write? = if a.stream.room = some 0 then none else some a.afterWrite := by
  rw [write?, Stream.write_of_intact intact]
  by_cases full : a.stream.room = some 0
  · rw [if_pos full, if_pos full]
  · rw [if_neg full, if_neg full]
    rfl

/-- A request is taken, or the responder waits for more, or it ends. -/
theorem read?_of_intact (intact : a.stream.Intact) (working : a.shutdown = false) :
    a.read? =
      match Frame.scan a.limit a.stream.inbox with
      | .frame payload rest => some (a.takeFrame payload rest)
      | .oversized size => some (a.stop (.failed (.oversized size)))
      | .incomplete =>
          if ¬ a.stream.ended then none
          else if a.stream.inbox = [] then some (a.stop .finished)
          else some (a.stop (.failed .truncated)) := by
  rw [read?, working, Stream.next_of_intact intact, if_neg Bool.false_ne_true]
  cases Frame.scan a.limit a.stream.inbox with
  | frame | oversized => rfl
  | incomplete =>
      cases a.stream.ended with
      | false => rfl
      | true => by_cases empty : a.stream.inbox = [] <;> simp [empty]

/-- Bytes of a reply are written, or a request is taken, or the responder ends. -/
theorem step?_cases (intact : a.stream.Intact) (working : a.shutdown = false)
    (step : a.step? = some next) :
    (a.unsent ≠ [] ∧ next = a.afterWrite) ∨
    (a.unsent = [] ∧ ∃ payload rest, Frame.scan a.limit a.stream.inbox = .frame payload rest ∧
      next = a.takeFrame payload rest) ∨
    (a.unsent = [] ∧ ∃ status, Ends a.limit a.stream.ended a.stream.inbox status ∧
      next = a.stop status) := by
  rw [step?, write?_of_intact intact, read?_of_intact intact working] at step
  split at step
  case isTrue => cases step
  case isFalse =>
    split at step
    case isTrue writing =>
      split at step
      · cases step
      · cases step
        exact .inl ⟨writing, rfl⟩
    case isFalse idle =>
      refine .inr ?_
      have idle : a.unsent = [] := Decidable.not_not.mp idle
      split at step
      case h_1 payload rest found =>
        cases step
        exact .inl ⟨idle, payload, rest, found, rfl⟩
      case h_2 size found =>
        cases step
        exact .inr ⟨idle, _, .oversized (Frame.scan_eq_oversized_iff.mp found), rfl⟩
      case h_3 found =>
        have unfinished := Frame.scan_eq_incomplete_iff.mp found
        split at step
        case isTrue => cases step
        case isFalse ended =>
          have ended : a.stream.ended = true := Decidable.not_not.mp ended
          split at step
          case isTrue empty =>
            cases step
            exact .inr ⟨idle, _, .finished ended empty, rfl⟩
          case isFalse more =>
            cases step
            exact .inr ⟨idle, _, .truncated ended unfinished more, rfl⟩

/-- With room for any number of bytes, and after the end of its stream, a responder does
not wait. -/
theorem status_ne_running (intact : a.stream.Intact) (working : a.shutdown = false)
    (unlimited : a.stream.room = none) (ended : a.stream.ended = true)
    (rests : a.step? = none) : a.status ≠ .running := by
  intro running
  rw [step?, if_neg (not_not_intro running), write?_of_intact intact, unlimited,
    read?_of_intact intact working, ended] at rests
  split at rests
  · cases rests
  · split at rests
    · cases rests
    · cases rests
    · by_cases empty : a.stream.inbox = [] <;> simp [empty] at rests

/-! ## Replies -/

/-- The reply to a request: its first bytes, and filler. -/
def replyTo (e : Exchange) (request : Bytes) : Bytes :=
  request.take CorrelationId.width ++ Payload.filler e.downloadSize

variable {e : Exchange} {request rest : Bytes}

theorem length_replyTo (long : CorrelationId.width ≤ request.length) :
    (replyTo e request).length = e.replyLength := by
  rw [replyTo, List.length_append, List.length_take, Nat.min_eq_left long]
  simp [Exchange.replyLength, Payload.totalLength, Payload.filler]

/-- A request without a prefix is counted. -/
theorem takeFrame_of_short (short : request.length < CorrelationId.width) :
    a.takeFrame request rest =
      { a with
        responder.tally := (a.responder.tally.frameReceived request.length).framingError
        stream.inbox := rest } := by
  rw [takeFrame, Responder.reply, Payload.reply_of_short short]
  rfl

/-- Any other request is counted, and its reply begins. -/
theorem takeFrame_of_long (long : CorrelationId.width ≤ request.length)
    (size : a.responder.downloadSize = e.downloadSize)
    (fits : e.replyLength ≤ Frame.capacity a.limit) :
    a.takeFrame request rest =
      { a with
        responder.tally := a.responder.tally.frameReceived request.length
        stream.inbox := rest
        unsent := Frame.ofPayload (replyTo e request)
        replying := e.replyLength } := by
  have reply : a.responder.reply request =
      (.ok (replyTo e request), a.responder.receive request) := by
    rw [Responder.reply, Payload.reply_of_long long, size]
    rfl
  have encoded : Frame.encode a.limit (replyTo e request) =
      .ok (Frame.ofPayload (replyTo e request)) := by
    rw [Frame.encode_eq, length_replyTo long, if_pos fits]
  simp only [takeFrame, reply, encoded, length_replyTo long]
  rfl

end Answering

end RoundTrip
