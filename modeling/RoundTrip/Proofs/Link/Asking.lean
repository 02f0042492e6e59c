import RoundTrip.Link.Asking
import RoundTrip.Proofs.Link.Sending

/-!
# Steps of the asking side

What a step of the reader can do on a stream on which nothing fails, while nobody has asked
for a shutdown (`Asking.readStep?_of_intact`), and what becomes of payloads that are passed on
to the writer (`Asking.passOn_eq`).
-/

namespace RoundTrip

namespace Asking

variable {a : Asking}

theorem foldl_enqueue {w : Writer} (senders : w.senders = true) (running : w.status = .running)
    (payloads : List Bytes) :
    payloads.foldl (fun w payload => (w.enqueue payload).2) w =
      { w with queue := w.queue ++ payloads } := by
  induction payloads generalizing w with
  | nil => simp
  | cons payload payloads ih =>
      rw [List.foldl_cons, Writer.enqueue, if_pos ⟨senders, running⟩]
      refine (ih (w := { w with queue := w.queue ++ [payload] }) senders running).trans ?_
      rw [List.append_cons w.queue payload payloads]

/-- A writer that runs takes all that is queued. -/
theorem passOn_eq (senders : a.sending.writer.senders = true)
    (running : a.sending.writer.status = .running) :
    a.passOn =
      { a with
        initiator.outbound.queued := []
        sending.writer.queue := a.sending.writer.queue ++ a.initiator.outbound.queued } := by
  rw [passOn, Initiator.takeQueued]
  simp only [foldl_enqueue senders running]

/-- Nothing but the queue of the writer changes when payloads are passed on to it. -/
theorem sending_passOn (a : Asking) :
    ∃ queue, a.passOn.sending = { a.sending with writer.queue := queue } := by
  have folded (payloads : List Bytes) (w : Writer) :
      ∃ queue, payloads.foldl (fun w payload => (w.enqueue payload).2) w = { w with queue } := by
    induction payloads generalizing w with
    | nil => exact ⟨w.queue, rfl⟩
    | cons payload payloads ih =>
        obtain ⟨queue, same⟩ := ih (w.enqueue payload).2
        refine ⟨queue, same.trans ?_⟩
        rw [Writer.enqueue]
        split <;> rfl
  obtain ⟨queue, same⟩ := folded a.initiator.outbound.queued a.sending.writer
  refine ⟨queue, ?_⟩
  exact congrArg (fun writer => { a.sending with writer }) same

theorem setSending_of_running {sending : Sending} (running : sending.writer.status = .running)
    (a : Asking) : a.setSending sending = { a with sending } := by
  rw [setSending, if_pos running]

theorem writeWithin_one (a : Asking) :
    (a.writeWithin 1).2 = a.passOn.setSending (a.passOn.sending.step?.getD a.passOn.sending) := by
  rw [writeWithin, Sending.settleWithin, settleWithin]
  cases a.passOn.sending.step? with
  | none => rfl
  | some next => simp [settleWithin]

/-- While bytes can follow, the reader takes a frame, or waits for the rest of it, or
stops at one that is too large. -/
theorem readStep?_of_intact (intact : a.sending.stream.Intact)
    (goesOn : a.sending.stream.ended = false) (working : a.sending.shutdown = false)
    (reads : a.reader = .running) :
    a.readStep? =
      match Frame.scan a.limit a.sending.stream.inbox with
      | .frame payload rest => some (a.takeFrame payload rest)
      | .oversized size => some (a.stop (.failed (.oversized size)))
      | .incomplete => none := by
  rw [readStep?, if_neg (not_not_intro reads), if_neg (working ▸ Bool.false_ne_true),
    readStream?, Stream.next_of_intact intact, goesOn]
  cases Frame.scan a.limit a.sending.stream.inbox with
  | frame | oversized => rfl
  | incomplete => simp

/-- A frame that settles a request is taken. -/
theorem takeFrame_of_ok {payload rest : Bytes} {nanos : Nat}
    (settles : (a.initiator.onFrame payload).1 = .ok nanos) :
    a.takeFrame payload rest =
      { a with
        initiator := (a.initiator.onFrame payload).2
        sending.stream.inbox := rest } := by
  simp only [takeFrame, settles]
  rfl

/-- A frame that names no request stops the reader. -/
theorem takeFrame_of_violation {payload rest : Bytes} {id : CorrelationId}
    (violates : (a.initiator.onFrame payload).1 = .error (.violation id)) :
    a.takeFrame payload rest =
      stop (.failed (.violation id))
        { a with
          initiator := (a.initiator.onFrame payload).2
          sending.stream.inbox := rest } := by
  simp only [takeFrame, violates]
  rfl

end Asking

end RoundTrip
