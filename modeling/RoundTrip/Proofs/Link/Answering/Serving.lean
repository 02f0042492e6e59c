import Mathlib.Algebra.Ring.Nat
import Mathlib.Data.List.Forall2
import RoundTrip.Proofs.Link.Answering

/-!
# What the answering side makes of a stream

Requests arrive in pieces, the stream has room for some bytes or for any number, and the
responder makes single steps (`Activity`). At every moment it has taken some requests off
what has arrived, and what it wrote together with what it is writing are the replies to
these, whatever is in the requests (`Serving`).

Main result: what is written, what is counted and how the responder ends depend on the
bytes of the stream alone (`answers_stream`).
-/

namespace RoundTrip

namespace Answering

/-! ## What there is to count -/

/-- The requests that are answered. -/
def answered (requests : List Bytes) : List Bytes :=
  requests.filter (CorrelationId.width ≤ ·.length)

/-- What there is to count once these requests were taken and answered. -/
def tallied (e : Exchange) (requests : List Bytes) : Tally where
  repliesSent := .ofNat (answered requests).length
  framingErrors := .ofNat (requests.filter (·.length < CorrelationId.width)).length
  bytesReceived := .ofNat (requests.map List.length).sum
  bytesSent := .ofNat (answered requests).length * .ofNat e.replyLength

variable {a next : Answering} {e : Exchange} {requests : List Bytes} {request rest : Bytes}

theorem answered_of_long (long : CorrelationId.width ≤ request.length) :
    answered (requests ++ [request]) = answered requests ++ [request] := by
  simp [answered, long]

theorem answered_of_short (short : request.length < CorrelationId.width) :
    answered (requests ++ [request]) = answered requests := by
  simp [answered, short]

theorem tallied_of_long (long : CorrelationId.width ≤ request.length) :
    ((tallied e requests).frameReceived request.length).replySent e.replyLength =
      tallied e (requests ++ [request]) := by
  simp [tallied, answered_of_long long, Tally.frameReceived, Tally.replySent, long,
    UInt64.ofNat_add, UInt64.add_mul]

theorem tallied_of_short (short : request.length < CorrelationId.width) :
    ((tallied e requests).frameReceived request.length).framingError =
      tallied e (requests ++ [request]) := by
  simp [tallied, answered_of_short short, Tally.frameReceived, Tally.framingError, short,
    UInt64.ofNat_add]

/-! ## What a responder keeps to -/

/-- The responder has taken these requests off the bytes that have arrived. What it has
written and what it is writing are the replies to them. If it has ended, nothing is left
to be written. -/
structure Serving (e : Exchange) (bytes : Bytes) (requests : List Bytes) (a : Answering) :
    Prop where
  limit : a.limit = e.maxFrameSize
  size : a.responder.downloadSize = e.downloadSize
  intact : a.stream.Intact
  whole : bytes = Frame.row requests ++ a.stream.inbox
  admitted : ∀ request ∈ requests, Frame.Admits e.maxFrameSize request.length
  written : a.stream.written ++ a.unsent = Frame.row ((answered requests).map (replyTo e))
  counted : (if a.unsent = [] then a.responder.tally
    else a.responder.tally.replySent a.replying) = tallied e requests
  works : a.status = .running → a.shutdown = false
  ends : a.status ≠ .running →
    a.unsent = [] ∧ Ends e.maxFrameSize a.stream.ended a.stream.inbox a.status

/-- How far a responder is from having to wait for bytes. -/
def weight (a : Answering) : Nat :=
  if a.status = .running then 2 * a.stream.inbox.length + (if a.unsent = [] then 0 else 1) + 2
  else 0

theorem weight_le (a : Answering) : weight a ≤ 2 * a.stream.inbox.length + 4 := by
  unfold weight
  split
  · split <;> omega
  · omega

variable {bytes : Bytes}

theorem serving_start (e : Exchange) : Serving e [] [] (ofExchange e) where
  limit := rfl
  size := rfl
  intact := ⟨rfl, rfl, rfl, rfl⟩
  whole := rfl
  admitted := by simp
  written := rfl
  counted := by simp [ofExchange, tallied, answered]
  works := fun _ => rfl
  ends := fun ended => absurd rfl ended

theorem serving_afterWrite (serving : Serving e bytes requests a) (writing : a.unsent ≠ []) :
    Serving e bytes requests a.afterWrite := by
  have counted := serving.counted
  rw [if_neg writing] at counted
  refine
    { serving with
      size := ?_
      intact := Stream.intact_accept serving.intact a.unsent
      whole := ?_
      written := (Stream.written_accept a.unsent a.stream).trans serving.written
      counted := ?_
      ends := fun ended => absurd (serving.ends ended).1 writing }
  · simp only [afterWrite]
    split <;> exact serving.size
  · simp only [afterWrite, Stream.inbox_accept]
    exact serving.whole
  · simp only [afterWrite]
    split <;> exact counted

theorem serving_takeFrame (fits : e.replyLength ≤ Frame.capacity e.maxFrameSize)
    (serving : Serving e bytes requests a) (running : a.status = .running) (idle : a.unsent = [])
    (found : Frame.scan a.limit a.stream.inbox = .frame request rest) :
    Serving e bytes (requests ++ [request]) (a.takeFrame request rest) := by
  have intact : Stream.Intact { a.stream with inbox := rest } := serving.intact.update
  have written := serving.written
  have counted := serving.counted
  rw [serving.limit] at found
  rw [idle, List.append_nil] at written
  rw [if_pos idle] at counted
  obtain ⟨front, admits⟩ := Frame.scan_eq_frame_iff.mp found
  have whole : bytes = Frame.row (requests ++ [request]) ++ rest := by
    rw [serving.whole, front, Frame.row_append, Frame.row_cons, Frame.row_nil, List.append_nil,
      List.append_assoc]
  have admitted : ∀ other ∈ requests ++ [request],
      Frame.Admits e.maxFrameSize other.length := by
    intro other member
    rcases List.mem_append.mp member with earlier | new
    · exact serving.admitted other earlier
    · rw [List.mem_singleton.mp new]
      exact admits
  rcases Nat.lt_or_ge request.length CorrelationId.width with short | long
  · rw [takeFrame_of_short short]
    refine { serving with intact, whole, admitted, written := ?_, counted := ?_, ends := ?_ }
    · rw [answered_of_short short, idle, List.append_nil]
      exact written
    · rw [if_pos idle, counted]
      exact tallied_of_short short
    · exact fun ended => absurd running ended
  · rw [takeFrame_of_long long serving.size (serving.limit ▸ fits)]
    have begun : Frame.ofPayload (replyTo e request) ≠ [] := by
      simp [Frame.ofPayload, Word.bigEndian]
    refine { serving with intact, whole, admitted, written := ?_, counted := ?_, ends := ?_ }
    · rw [answered_of_long long, List.map_append, Frame.row_append, ← written]
      simp
    · rw [if_neg begun, counted]
      exact tallied_of_long long
    · exact fun ended => absurd running ended

theorem serving_stop (serving : Serving e bytes requests a) (idle : a.unsent = []) {status : Status}
    (ends : Ends a.limit a.stream.ended a.stream.inbox status) :
    Serving e bytes requests (a.stop status) := by
  rw [stop, if_pos idle, Stream.shutWrite_eq]
  exact
    { serving with
      intact := serving.intact.update
      works := fun running => absurd running ends.ne_running
      ends := fun _ => ⟨idle, serving.limit ▸ ends⟩ }

theorem running_of_step? (step : a.step? = some next) : a.status = .running := by
  rw [step?] at step
  split at step
  case isTrue => cases step
  case isFalse running => exact Decidable.not_not.mp running

/-- Every step keeps to it. -/
theorem serving_step? (fits : e.replyLength ≤ Frame.capacity e.maxFrameSize)
    (serving : Serving e bytes requests a) (step : a.step? = some next) :
    ∃ taken, Serving e bytes taken next := by
  have running := running_of_step? step
  rcases step?_cases serving.intact (serving.works running) step with
    ⟨writing, rfl⟩ | ⟨idle, request, rest, found, rfl⟩ | ⟨idle, status, ends, rfl⟩
  · exact ⟨requests, serving_afterWrite serving writing⟩
  · exact ⟨requests ++ [request], serving_takeFrame fits serving running idle found⟩
  · exact ⟨requests, serving_stop serving idle ends⟩

/-- No step changes whether bytes can follow. With room for any number of bytes there are
fewer steps left after each of them. -/
theorem step?_lowers (fits : e.replyLength ≤ Frame.capacity e.maxFrameSize)
    (serving : Serving e bytes requests a) (step : a.step? = some next) :
    next.stream.ended = a.stream.ended ∧
      (a.stream.room = none → next.stream.room = none ∧ weight next < weight a) := by
  have running := running_of_step? step
  rcases step?_cases serving.intact (serving.works running) step with
    ⟨writing, rfl⟩ | ⟨idle, request, rest, found, rfl⟩ | ⟨idle, status, ends, rfl⟩
  · refine ⟨Stream.ended_accept a.unsent a.stream, fun unlimited => ?_⟩
    rw [afterWrite, Stream.accept_of_room a.unsent unlimited]
    exact ⟨unlimited, by simp [weight, running, writing]⟩
  · have shorter := Frame.length_rest_of_scan found
    simp only [Frame.overhead, Word.width] at shorter
    rcases Nat.lt_or_ge request.length CorrelationId.width with short | long
    · rw [takeFrame_of_short short]
      refine ⟨rfl, fun unlimited => ⟨unlimited, ?_⟩⟩
      simp only [weight, running, idle, ↓reduceIte]
      omega
    · rw [takeFrame_of_long long serving.size (serving.limit ▸ fits)]
      refine ⟨rfl, fun unlimited => ⟨unlimited, ?_⟩⟩
      simp only [weight, running, idle, ↓reduceIte]
      split <;> omega
  · rw [stop, if_pos idle, Stream.shutWrite_eq]
    refine ⟨rfl, fun unlimited => ⟨unlimited, ?_⟩⟩
    simp [weight, running, ends.ne_running]

/-! ## Runs -/

/-- What can happen to a responder that nobody shuts down. -/
inductive Activity
  | arrive (piece : Bytes)
  /-- The peer has read, and there is room for so many bytes, or for any number. -/
  | room (count : Option Nat)
  /-- The responder makes a step, if one is possible. -/
  | work
deriving DecidableEq, Repr

def Activity.piece : Activity → Bytes
  | arrive piece => piece
  | room _ | work => []

/-- All that arrives. -/
def arrived (activities : List Activity) : Bytes := (activities.map (·.piece)).flatten

def act (a : Answering) : Activity → Answering
  | .arrive piece => { a with stream := a.stream.feed piece }
  | .room count => { a with stream.room := count }
  | .work => a.step?.getD a

def run (a : Answering) (activities : List Activity) : Answering := activities.foldl act a

/-- Nothing follows what has arrived. -/
def endInput (a : Answering) : Answering := { a with stream.ended := true }

/-- Work off what has arrived, with room for all that is to be written. -/
def complete (a : Answering) : Answering := (a.act (.room none)).settle

/-- Whatever happens, what arrives goes to the end of the stream. -/
theorem serving_act (fits : e.replyLength ≤ Frame.capacity e.maxFrameSize)
    (serving : Serving e bytes requests a) (activity : Activity)
    (comes : a.stream.ended = false ∨ activity.piece = []) :
    (∃ taken, Serving e (bytes ++ activity.piece) taken (a.act activity)) ∧
      (a.act activity).stream.ended = a.stream.ended := by
  cases activity with
  | arrive piece =>
      refine ⟨⟨requests, ?_⟩, rfl⟩
      refine { serving with intact := serving.intact.update, whole := ?_, ends := ?_ }
      · rw [serving.whole, List.append_assoc]
        rfl
      · exact fun stopped => (serving.ends stopped).imp_right fun ends => ends.append comes
  | room count =>
      rw [Activity.piece, List.append_nil]
      exact ⟨⟨requests, { serving with intact := serving.intact.update }⟩, rfl⟩
  | work =>
      simp only [Activity.piece, List.append_nil, act]
      cases step : a.step? with
      | none => exact ⟨⟨requests, serving⟩, rfl⟩
      | some next => exact ⟨serving_step? fits serving step, (step?_lowers fits serving step).1⟩

theorem serving_run (fits : e.replyLength ≤ Frame.capacity e.maxFrameSize)
    (serving : Serving e bytes requests a) (activities : List Activity)
    (comes : a.stream.ended = false ∨ arrived activities = []) :
    (∃ taken, Serving e (bytes ++ arrived activities) taken (a.run activities)) ∧
      (a.run activities).stream.ended = a.stream.ended := by
  induction activities generalizing a bytes requests with
  | nil =>
      rw [show arrived [] = [] from rfl, List.append_nil]
      exact ⟨⟨requests, serving⟩, rfl⟩
  | cons activity activities ih =>
      have whole : arrived (activity :: activities) = activity.piece ++ arrived activities := rfl
      rw [whole, List.append_eq_nil_iff] at comes
      obtain ⟨⟨taken, next⟩, same⟩ :=
        serving_act fits serving activity (comes.imp_right And.left)
      rw [whole, ← List.append_assoc, ← same]
      exact ih next (comes.imp same.trans And.right)

theorem serving_endInput (serving : Serving e bytes requests a) :
    Serving e bytes requests a.endInput :=
  { serving with
    intact := serving.intact.update
    ends := fun stopped => (serving.ends stopped).imp_right Ends.atEnd }

/-- A responder that has seen the end of its stream comes to its own. -/
theorem serving_complete (fits : e.replyLength ≤ Frame.capacity e.maxFrameSize)
    (serving : Serving e bytes requests a) (ended : a.stream.ended = true) :
    (∃ taken, Serving e bytes taken a.complete) ∧ a.complete.status ≠ .running := by
  obtain ⟨⟨taken, start⟩, same⟩ := serving_act fits serving (.room none) (.inr rfl)
  have keeps : ∀ s next : Answering,
      ((∃ taken, Serving e bytes taken s) ∧ s.stream.ended = true ∧ s.stream.room = none) →
      s.step? = some next →
      ((∃ taken, Serving e bytes taken next) ∧ next.stream.ended = true ∧
        next.stream.room = none) ∧ weight next < weight s := by
    rintro s next ⟨⟨taken, serving⟩, ended, unlimited⟩ step
    obtain ⟨same, lowers⟩ := step?_lowers fits serving step
    obtain ⟨still, lower⟩ := lowers unlimited
    exact ⟨⟨serving_step? fits serving step, same.trans ended, still⟩, lower⟩
  rw [Activity.piece, List.append_nil] at start
  obtain ⟨⟨serves, atEnd, unlimited⟩, rests⟩ :=
    settle_rests keeps ⟨⟨taken, start⟩, same.trans ended, rfl⟩ (weight_le _)
  refine ⟨serves, ?_⟩
  obtain ⟨taken, serving⟩ := serves
  intro running
  exact status_ne_running serving.intact (serving.works running) unlimited atEnd rests running

/-! ## The end -/

/-- These requests were taken, these replies were written, and what was left of the stream
tells how the responder ended. -/
structure Concludes (e : Exchange) (requests replies : List Bytes) (rest : Bytes) (a : Answering) :
    Prop where
  written : a.stream.written = Frame.row replies
  unsent : a.unsent = []
  tally : a.responder.tally =
    { repliesSent := .ofNat replies.length
      framingErrors := .ofNat (requests.filter (·.length < 4)).length
      bytesReceived := .ofNat (requests.map List.length).sum
      bytesSent := .ofNat (replies.length * (e.downloadSize + 4)) }
  oversized : ∀ size, Frame.Oversized e.maxFrameSize size rest →
    a.status = .failed (.oversized size)
  truncated : Frame.Unfinished e.maxFrameSize rest → rest ≠ [] →
    a.status = .failed (.io "bytes remaining on stream")
  finished : rest = [] → a.status = .finished

theorem parse_of_serving (serving : Serving e bytes requests a) (stopped : a.status ≠ .running) :
    Frame.Parse e.maxFrameSize bytes requests a.stream.inbox where
  whole := serving.whole
  admitted := serving.admitted
  ends := (serving.ends stopped).2.holds_none

theorem concludes_of_serving (serving : Serving e bytes requests a)
    (stopped : a.status ≠ .running) :
    Concludes e requests ((answered requests).map (replyTo e)) a.stream.inbox a := by
  obtain ⟨idle, ends⟩ := serving.ends stopped
  have written := serving.written
  have counted := serving.counted
  rw [idle, List.append_nil] at written
  rw [if_pos idle] at counted
  constructor
  · exact written
  · exact idle
  · rw [counted, tallied, List.length_map, UInt64.ofNat_mul, Exchange.replyLength,
      Payload.totalLength_eq]
    rfl
  · exact fun size tooLarge => ends.eq_of_oversized tooLarge
  · intro unfinished more
    rw [ends.eq_of_unfinished unfinished, if_neg more]
    rfl
  · intro empty
    rw [ends.eq_of_unfinished (empty ▸ Frame.unfinished_nil e.maxFrameSize), if_pos empty]

/-- The replies to the requests of a stream and the end that it comes to do not depend on
how the stream is cut, nor on when the responder works and when there is room. A request
with a prefix gets one reply, in its turn, and any other one is counted. -/
theorem answers_stream (accepted : e.accept = .ok e) (bytes : Bytes) :
    ∃ requests rest replies, Frame.Parse e.maxFrameSize bytes requests rest ∧
      List.Forall₂
        (fun request reply => reply.length = e.downloadSize + 4 ∧ request.take 4 <+: reply)
        (requests.filter (4 ≤ ·.length)) replies ∧
      ∀ before after, arrived before = bytes → arrived after = [] →
        let a := ((ofExchange e).run before).endInput.run after
        (a.status ≠ .running → Concludes e requests replies rest a) ∧
          a.complete.status ≠ .running ∧ Concludes e requests replies rest a.complete := by
  have fits := (Exchange.fits_of_accept accepted).2
  let drained := Frame.drain e.maxFrameSize bytes
  -- Any responder that is stopped has parsed the stream, and there is one parse only.
  have concludes : ∀ taken (a : Answering), Serving e bytes taken a → a.status ≠ .running →
      Concludes e drained.frames ((answered drained.frames).map (replyTo e)) drained.rest a := by
    intro taken a serving stopped
    obtain ⟨frames, rest⟩ := (parse_of_serving serving stopped).eq_drain
    have concludes := concludes_of_serving serving stopped
    rwa [frames, rest] at concludes
  refine ⟨drained.frames, drained.rest, (answered drained.frames).map (replyTo e),
    (Frame.parse_drain e.maxFrameSize bytes).1, ?_, ?_⟩
  · rw [List.forall₂_map_right_iff]
    refine List.forall₂_same.mpr fun request member => ?_
    have long : 4 ≤ request.length := by simpa using (List.mem_filter.mp member).2
    exact ⟨(length_replyTo long).trans (Payload.totalLength_eq e.downloadSize),
      List.prefix_append _ _⟩
  · intro before after arrives nothing a
    obtain ⟨⟨early, first⟩, -⟩ := serving_run fits (serving_start e) before (.inl rfl)
    obtain ⟨⟨taken, serving⟩, same⟩ :=
      serving_run fits (serving_endInput first) after (.inr nothing)
    rw [nothing, arrives, List.nil_append, List.append_nil] at serving
    obtain ⟨⟨last, served⟩, stopped⟩ := serving_complete fits serving same
    exact ⟨concludes taken a serving, stopped, concludes last a.complete served stopped⟩

/-- A stream is cut inside its first length word and inside its first request. The second
request has no prefix, a third one would be too large, and meanwhile there is little room
for the reply. -/
theorem answers_stream_cut :
    let e : Exchange := { uploadSize := 2, downloadSize := 1, maxFrameSize := some 6 }
    let before : List Activity :=
      [.arrive [0, 0, 0], .work, .arrive [5, 1, 2, 3], .room (some 3), .work,
        .arrive [4, 9, 0, 0, 0, 1, 7], .work, .work, .arrive [0, 0, 0, 7, 1]]
    let last := (((ofExchange e).run before).endInput.run [.work, .room (some 2), .work]).complete
    e.accept = .ok e ∧
      (∃ requests rest replies, Frame.Parse (some 6) (arrived before) requests rest ∧
        Concludes e requests replies rest last) ∧
      last.stream.written = [0, 0, 0, 5, 1, 2, 3, 4, 0] ∧
      last.status = .failed (.oversized 7) ∧ last.responder.tally.framingErrors = 1 := by
  intro e before last
  have accepted : e.accept = .ok e := rfl
  obtain ⟨requests, rest, replies, parse, -, concludes⟩ := answers_stream accepted (arrived before)
  refine ⟨accepted, ⟨requests, rest, replies, parse, ?_⟩, ?_⟩
  · exact (concludes before [.work, .room (some 2), .work] rfl rfl).2.2
  · decide +kernel

end Answering

end RoundTrip
