import RoundTrip.Link.Sending
import RoundTrip.Proofs.Link.Stream

/-!
# Steps of the writer

What a step of the writer can be on a stream on which nothing fails (`Sending.Step`,
`step_of_stepSeeing?`), in particular while nobody has asked for a shutdown (`step?_cases`), and
what every step leaves as it was, also on a stream that fails (`Sending.Follows`).
-/

namespace RoundTrip

namespace Sending

/-- A step of the writer, which looks for a shutdown between two frames, or does not. -/
def stepSeeing? (heeds : Bool) (s : Sending) : Option Sending :=
  if s.writer.status ≠ .running then none
  else if s.writer.unsent ≠ [] then s.write?
  else if heeds then s.begin? else s.takeNext?

theorem step?_eq_stepSeeing? (s : Sending) : s.step? = s.stepSeeing? true := rfl

/-! ## What a step can be -/

/-- Write as much of the frame that was begun as there is room for. -/
def afterWrite (s : Sending) : Sending :=
  let (unsent, stream) := s.stream.accept s.writer.unsent
  { s with writer.unsent := unsent, stream }

/-- Begin the frame of the first payload. -/
def begun (payload : Bytes) (queue : List Bytes) (s : Sending) : Sending :=
  { s with writer.queue := queue, writer.unsent := Frame.ofPayload payload }

/-- End at a payload that has no frame, and ask for a shutdown. -/
def refuse (payload : Bytes) (s : Sending) : Sending :=
  { s.close (.failed (.oversized payload.length)) with shutdown := true }

/-- Ending leaves the stream as it was, but that its write side may be shut. -/
theorem close_eq (status : Status) (s : Sending) :
    s.close status =
      { s with
        writer.status := status
        writer.queue := []
        stream.writeClosed := s.stream.shutWrite.writeClosed } :=
  congrArg (fun stream => { s with writer.status := status, writer.queue := [], stream })
    (Stream.shutWrite_eq s.stream)

/-- Bytes of a frame are written, or a frame is begun that the limit admits, or one is refused,
or the writer ends because somebody asked for it or nothing is to follow. -/
inductive Step (s : Sending) : Sending → Prop
  | write : s.writer.unsent ≠ [] → Step s s.afterWrite
  | begin {payload : Bytes} {queue : List Bytes} : s.writer.unsent = [] →
      s.writer.queue = payload :: queue → Frame.Admits s.writer.limit payload.length →
      Step s (s.begun payload queue)
  | refuse {payload : Bytes} {queue : List Bytes} : s.writer.unsent = [] →
      s.writer.queue = payload :: queue → ¬ Frame.Admits s.writer.limit payload.length →
      Step s (s.refuse payload)
  | stop : s.writer.unsent = [] →
      s.shutdown = true ∨ s.writer.queue = [] ∧ s.writer.senders = false →
      Step s (s.close .finished)

variable {s next : Sending} {heeds : Bool}

theorem write?_of_intact (intact : s.stream.Intact) :
    s.write? = if s.stream.room = some 0 then none else some s.afterWrite := by
  rw [write?, Stream.write_of_intact intact]
  by_cases full : s.stream.room = some 0
  · rw [if_pos full, if_pos full]
  · rw [if_neg full, if_neg full]
    rfl

theorem running_of_stepSeeing? (step : s.stepSeeing? heeds = some next) :
    s.writer.status = .running := by
  rw [stepSeeing?] at step
  split at step
  case isTrue => cases step
  case isFalse running => exact Decidable.not_not.mp running

theorem step_of_takeNext? (idle : s.writer.unsent = []) (step : s.takeNext? = some next) :
    s.Step next := by
  rw [takeNext?] at step
  split at step
  case h_1 payload queue first =>
    rw [Frame.encode_eq] at step
    by_cases fits : payload.length ≤ Frame.capacity s.writer.limit
    · rw [if_pos fits] at step
      cases step
      exact .begin idle first (Frame.admits_iff.mpr fits)
    · rw [if_neg fits] at step
      cases step
      exact .refuse idle first (mt Frame.admits_iff.mp fits)
  case h_2 empty =>
    split at step
    case isTrue => cases step
    case isFalse gone =>
      cases step
      exact .stop idle (.inr ⟨empty, Bool.eq_false_iff.mpr gone⟩)

theorem step_of_stepSeeing? (intact : s.stream.Intact) (step : s.stepSeeing? heeds = some next) :
    s.Step next := by
  rw [stepSeeing?, if_neg (not_not_intro (running_of_stepSeeing? step)),
    write?_of_intact intact] at step
  split at step
  case isTrue writing =>
    split at step
    · cases step
    · cases step
      exact .write writing
  case isFalse idle =>
    have idle : s.writer.unsent = [] := Decidable.not_not.mp idle
    split at step
    case isTrue =>
      rw [begin?] at step
      split at step
      case isTrue asked =>
        cases step
        exact .stop idle (.inl asked)
      case isFalse => exact step_of_takeNext? idle step
    case isFalse => exact step_of_takeNext? idle step

/-- While nobody asks for a shutdown and all payloads are admitted, bytes of a frame are written,
or a frame is begun. -/
theorem step?_cases (intact : s.stream.Intact) (working : s.shutdown = false)
    (senders : s.writer.senders = true)
    (fits : ∀ payload ∈ s.writer.queue, payload.length ≤ Frame.capacity s.writer.limit)
    (step : s.step? = some next) :
    (s.writer.unsent ≠ [] ∧ next = s.afterWrite) ∨
    (s.writer.unsent = [] ∧ ∃ payload queue, s.writer.queue = payload :: queue ∧
      next = s.begun payload queue) := by
  rw [step?_eq_stepSeeing?] at step
  cases step_of_stepSeeing? intact step with
  | write writing => exact .inl ⟨writing, rfl⟩
  | begin idle first => exact .inr ⟨idle, _, _, first, rfl⟩
  | refuse _ first refused =>
      exact absurd (Frame.admits_iff.mpr (fits _ (first ▸ List.mem_cons_self))) refused
  | stop _ ends =>
      rcases ends with asked | ⟨-, gone⟩
      · rw [working] at asked
        cases asked
      · rw [senders] at gone
        cases gone

/-! ## What a step leaves -/

/-- What a step of the writer leaves as it was. A writer that fails asks for a shutdown, and one
that has ended does nothing. -/
structure Follows (s next : Sending) : Prop where
  inbox : next.stream.inbox = s.stream.inbox
  unreadable : next.stream.unreadable = s.stream.unreadable
  shutdown : s.writer.status = .running →
    (next.shutdown = true ↔ s.shutdown = true ∨ ∃ fault, next.writer.status = .failed fault)
  stopped : s.writer.status ≠ .running →
    next.shutdown = s.shutdown ∧ next.writer.status = s.writer.status

theorem follows_of_eq (writer : next.writer.status = s.writer.status)
    (shutdown : next.shutdown = s.shutdown) (inbox : next.stream.inbox = s.stream.inbox)
    (unreadable : next.stream.unreadable = s.stream.unreadable) : s.Follows next where
  inbox := inbox
  unreadable := unreadable
  shutdown running := by simp [writer, running, shutdown]
  stopped _ := ⟨shutdown, writer⟩

theorem follows_close (running : s.writer.status = .running) {status : Status} {asked : Bool}
    (asks : asked = true ↔ s.shutdown = true ∨ ∃ fault, status = .failed fault) :
    s.Follows { s.close status with shutdown := asked } := by
  rw [close_eq]
  exact ⟨rfl, rfl, fun _ => asks, fun ended => absurd running ended⟩

theorem follows_write? (running : s.writer.status = .running) (step : s.write? = some next) :
    s.Follows next := by
  rw [write?] at step
  split at step
  case h_1 => cases step
  case h_2 fault _ =>
    cases step
    exact ⟨rfl, rfl, fun _ => by simp [breakOff], fun ended => absurd running ended⟩
  case h_3 unsent stream taken =>
    cases step
    have same := Stream.accept_eq s.writer.unsent s.stream
    rw [Stream.accept_of_write taken] at same
    constructor
    · exact congrArg (·.inbox) same
    · exact congrArg (·.unreadable) same
    · simp [running]
    · exact fun ended => absurd running ended

theorem follows_takeNext? (running : s.writer.status = .running)
    (step : s.takeNext? = some next) : s.Follows next := by
  rw [takeNext?] at step
  split at step
  case h_1 payload queue _ =>
    split at step
    · cases step
      exact ⟨rfl, rfl, by simp [running], fun ended => absurd running ended⟩
    · cases step
      exact follows_close running (by simp)
  case h_2 =>
    split at step
    · cases step
    · cases step
      exact follows_close running (by simp)

theorem follows_stepSeeing? (step : s.stepSeeing? heeds = some next) : s.Follows next := by
  rw [stepSeeing?] at step
  split at step
  case isTrue => cases step
  case isFalse running =>
    have running := Decidable.not_not.mp running
    split at step
    · exact follows_write? running step
    · split at step
      · rw [begin?] at step
        split at step
        · cases step
          exact follows_close running (by simp_all)
        · exact follows_takeNext? running step
      · exact follows_takeNext? running step

end Sending

end RoundTrip
