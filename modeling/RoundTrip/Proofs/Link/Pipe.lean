import RoundTrip.Link.Answering
import RoundTrip.Link.Pipe
import RoundTrip.Proofs.Link.Asking

/-!
# Work at a pipe

What a part writes in one turn takes up room of its pipe (`Stream.Offered`), so that it has to
wait only if the pipe is full and open (`Stream.full_of_waiting`). A part with operations left at
the end of its turn has done all that it could (`settleWithin_rests`).

The writer and the responder keep to this in every step (`Sending.working_step?`,
`Answering.working_step?`), and reading leaves alone what belongs to the writer (`Asking.Reads`).
-/

namespace RoundTrip

/-- Work keeps what every step keeps, and with operations left nothing is left to do, if steps
that are free lower a measure that no other step raises. -/
theorem settleWithin_rests {σ : Type} {step? : σ → Option σ} {isFree : σ → Bool} {Holds : σ → Prop}
    (measure : σ → Nat)
    (keeps : ∀ s next, Holds s → step? s = some next → Holds next ∧
      measure next + (if isFree s then 1 else 0) ≤ measure s)
    {fuel operations : Nat} {s : σ} (holds : Holds s) (enough : measure s + operations ≤ fuel) :
    Holds (settleWithin step? isFree fuel operations s).2 ∧
      ((settleWithin step? isFree fuel operations s).1 ≠ 0 →
        step? (settleWithin step? isFree fuel operations s).2 = none) := by
  induction fuel generalizing operations s with
  | zero =>
      obtain rfl : operations = 0 := by omega
      exact ⟨holds, fun left => absurd rfl left⟩
  | succ fuel ih =>
      cases operations with
      | zero => exact ⟨holds, fun left => absurd rfl left⟩
      | succ left =>
          rw [settleWithin]
          cases stepped : step? s with
          | none => exact ⟨holds, fun _ => stepped⟩
          | some next =>
              obtain ⟨still, lower⟩ := keeps s next holds stepped
              refine ih still ?_
              split
              case isTrue free =>
                rw [if_pos free] at lower
                omega
              case isFalse => omega

/-! ## Streams over a pipe -/

/-- A stream that a part works on, over a pipe with so much room: what was written since has taken
some of it. -/
structure Stream.Offered (room : Nat) (closed : Bool) (s : Stream) : Prop where
  left : ∃ left, s.room = some left ∧ left + s.written.length = room
  failure : s.writeFailure.isSome = closed

namespace Stream

variable {s : Stream} {room : Nat} {closed : Bool}

theorem offered_offer (capacity : Nat) (p : Pipe) (fresh : s.written = []) :
    (p.offer capacity s).Offered (capacity - p.content.length) p.closed where
  left := ⟨_, rfl, by simp [Pipe.offer, fresh]⟩
  failure := by cases closed : p.closed <;> simp [Pipe.offer, closed]

/-- What was written has taken room, whatever else becomes of the stream. -/
theorem Offered.update (offered : s.Offered room closed) {inbox : Bytes} {writeClosed : Bool} :
    Offered room closed { s with inbox, writeClosed } :=
  ⟨offered.left, offered.failure⟩

theorem offered_shutWrite (offered : s.Offered room closed) : s.shutWrite.Offered room closed := by
  unfold shutWrite
  split
  · exact offered
  · exact offered.update

theorem offered_write (offered : s.Offered room closed) {bytes unsent : Bytes} {stream : Stream}
    (taken : s.write bytes = .taken unsent stream) :
    stream.Offered room closed ∧ stream.inbox = s.inbox ∧ stream.writeClosed = s.writeClosed := by
  obtain ⟨left, own, total⟩ := offered.left
  unfold write at taken
  split at taken
  · cases taken
  · split at taken
    · cases taken
    · split at taken
      · cases taken
      · rw [accept, own] at taken
        cases taken
        refine ⟨⟨⟨_, rfl, ?_⟩, offered.failure⟩, rfl, rfl⟩
        simp only [List.length_append, List.length_take]
        omega

/-- Who has to wait for room finds the pipe open and full. -/
theorem full_of_waiting (offered : s.Offered room closed) {bytes : Bytes}
    (waits : s.write bytes = .waiting) : closed = false ∧ s.written.length = room := by
  obtain ⟨left, own, total⟩ := offered.left
  unfold write at waits
  split at waits
  · cases waits
  · rename_i intact
    split at waits
    · rename_i none
      rw [own, Option.some.injEq] at none
      refine ⟨?_, by omega⟩
      rw [← offered.failure, intact]
      rfl
    · split at waits <;> cases waits

/-- A frame takes some of what has arrived. -/
theorem length_rest_of_next {limit : Limit} {payload rest : Bytes}
    (found : s.next limit = .frame payload rest) : rest.length < s.inbox.length := by
  rw [next] at found
  split at found
  · cases found
  · split at found
    case h_1 scanned =>
      cases found
      have := Frame.length_rest_of_scan scanned
      simp only [Frame.overhead, Word.width] at this
      omega
    case h_2 => cases found
    case h_3 =>
      split at found
      · cases found
      · split at found
        · cases found
        · split at found <;> cases found

end Stream

/-! ## The writer -/

namespace Sending

/-- A writer that runs has not shut its write side, and one that has ended asks for a shutdown. -/
structure Sound (s : Sending) : Prop where
  senders : s.writer.senders = true
  isOpen : s.writer.status = .running → s.stream.writeClosed = false
  asked : s.writer.status ≠ .running → s.shutdown = true

/-- A sound writer at work over a pipe. While it runs, nobody asks for a shutdown. -/
structure Working (room : Nat) (closed down : Bool) (s : Sending) : Prop extends Sound s where
  offered : s.stream.Offered room closed
  quiet : s.writer.status = .running → s.shutdown = down

variable {s next : Sending} {room : Nat} {closed down : Bool}

theorem working_step? (working : s.Working room closed down) (step : s.step? = some next) :
    next.Working room closed down := by
  obtain ⟨⟨senders, isOpen, -⟩, offered, quiet⟩ := working
  -- A writer that ends may shut its write side, and a shutdown is asked for by then.
  have ends {status : Status} (ended : status ≠ .running) :
      Working room closed down { s.close status with shutdown := true } :=
    ⟨⟨senders, fun running => absurd running ended, fun _ => rfl⟩,
      Stream.offered_shutWrite offered, fun running => absurd running ended⟩
  rw [step?] at step
  split at step
  case isTrue => cases step
  case isFalse running =>
    have running : s.writer.status = .running := Decidable.not_not.mp running
    split at step
    case isTrue =>
      rw [write?] at step
      split at step
      case h_1 => cases step
      case h_2 fault _ =>
        cases step
        have ended := Status.failed_ne_running fault
        exact ⟨⟨senders, fun running => absurd running ended, fun _ => rfl⟩, offered,
          fun running => absurd running ended⟩
      case h_3 unsent stream taken =>
        cases step
        obtain ⟨still, -, kept⟩ := Stream.offered_write offered taken
        exact ⟨⟨senders, fun _ => kept.trans (isOpen running), fun ended => absurd running ended⟩,
          still, quiet⟩
    case isFalse =>
      rw [begin?] at step
      split at step
      case isTrue shutdown =>
        cases step
        have same : s.close .finished = { s.close .finished with shutdown := true } := by
          rw [close, shutdown]
        rw [same]
        exact ends Status.finished_ne_running
      case isFalse =>
        rw [takeNext?] at step
        split at step
        · split at step
          · cases step
            exact ⟨⟨senders, fun _ => isOpen running, fun ended => absurd running ended⟩, offered,
              quiet⟩
          · cases step
            exact ends (Status.failed_ne_running _)
        · rw [if_pos senders] at step
          cases step

/-- A writer that runs and can do nothing has nothing to do, or waits for room. -/
theorem rests_cases (running : s.writer.status = .running) (rests : s.step? = none) :
    (s.writer.unsent ≠ [] ∧ s.stream.write s.writer.unsent = .waiting) ∨
      (s.writer.unsent = [] ∧ s.writer.queue = [] ∧ s.shutdown = false) := by
  rw [step?, if_neg (not_not_intro running)] at rests
  split at rests
  case isTrue writing =>
    rw [write?] at rests
    split at rests
    case h_1 waits => exact .inl ⟨writing, waits⟩
    case h_2 => cases rests
    case h_3 => cases rests
  case isFalse idle =>
    refine .inr ⟨Decidable.not_not.mp idle, ?_⟩
    rw [begin?] at rests
    split at rests
    case isTrue => cases rests
    case isFalse working =>
      refine ⟨?_, Bool.eq_false_iff.mpr working⟩
      rw [takeNext?] at rests
      split at rests
      · split at rests <;> cases rests
      · assumption

theorem settleWithin_works (working : s.Working room closed down) (operations : Nat) :
    (s.settleWithin operations).2.Working room closed down ∧
      ((s.settleWithin operations).1 ≠ 0 → (s.settleWithin operations).2.step? = none) :=
  settleWithin_rests (fun _ => 0) (fun _ _ working step => ⟨working_step? working step, by simp⟩)
    working (Nat.le_of_eq (Nat.zero_add operations))

end Sending

namespace Asking

variable {a next : Asking}

/-- A writer that takes part of a turn leaves nothing queued. -/
theorem writeWithin_works {room : Nat} {closed down : Bool}
    (working : a.sending.Working room closed down) (operations : Nat) :
    (a.writeWithin operations).2.sending.Working room closed down ∧
      ((a.writeWithin operations).1 ≠ 0 →
        (a.writeWithin operations).2.sending.step? = none) ∧
      (a.writeWithin operations).2.initiator.outbound.queued = [] ∧
      (a.writeWithin operations).2.reader = a.reader ∧
      (a.writeWithin operations).2.status = a.status ∧
      (a.sending.writer.status ≠ .running →
        (a.writeWithin operations).2.sending.writer.status ≠ .running) := by
  obtain ⟨queue, same⟩ := sending_passOn a
  have passed : a.passOn.sending.Working room closed down := by
    rw [same]
    exact ⟨⟨working.senders, working.isOpen, working.asked⟩, working.offered, working.quiet⟩
  obtain ⟨works, rests⟩ := Sending.settleWithin_works passed operations
  refine ⟨works, rests, ?_, rfl, rfl, fun ended => ?_⟩
  · show (a.passOn.setSending _).initiator.outbound.queued = []
    rw [setSending]
    split <;> rfl
  · have none : a.passOn.sending.step? = none := by
      rw [same]
      exact if_pos ended
    show (a.passOn.sending.settleWithin operations).2.writer.status ≠ .running
    rw [Sending.settleWithin, settleWithin_of_none none, same]
    exact ended

/-! ## The reader -/

/-- What reading leaves as it was: the writer and what waits for it, and a shutdown is asked for
only by a reader that ends. -/
structure Reads (a next : Asking) : Prop where
  writer : next.sending.writer = a.sending.writer
  stream : ∃ inbox, next.sending.stream = { a.sending.stream with inbox }
  status : next.status = a.status
  outbound : next.initiator.outbound = a.initiator.outbound
  stopped : (a.reader ≠ .running → a.sending.shutdown = true) →
    next.reader ≠ .running → next.sending.shutdown = true
  runs : next.reader = .running → a.reader = .running ∧ next.sending.shutdown = a.sending.shutdown

theorem Reads.refl (a : Asking) : a.Reads a :=
  ⟨rfl, ⟨_, rfl⟩, rfl, rfl, id, fun running => ⟨running, rfl⟩⟩

theorem Reads.trans {last : Asking} (first : a.Reads next) (later : next.Reads last) :
    a.Reads last where
  writer := later.writer.trans first.writer
  stream := by
    obtain ⟨_, same⟩ := first.stream
    obtain ⟨inbox, same'⟩ := later.stream
    exact ⟨inbox, by rw [same', same]⟩
  status := later.status.trans first.status
  outbound := later.outbound.trans first.outbound
  stopped before := later.stopped (first.stopped before)
  runs running := by
    obtain ⟨still, same⟩ := later.runs running
    exact ⟨(first.runs still).1, same.trans (first.runs still).2⟩

/-- A reader that ends closes the initiator, which keeps what is queued. -/
theorem reads_stop (a : Asking) (status : Status) (ended : status ≠ .running) :
    a.Reads (a.stop status) := by
  refine ⟨rfl, ⟨_, rfl⟩, rfl, ?_, fun _ _ => rfl, fun running => absurd running ended⟩
  rw [stop, close, Initiator.onClose]
  split <;> rfl

theorem reads_takeFrame (running : a.reader = .running) (payload rest : Bytes) :
    a.Reads (a.takeFrame payload rest) := by
  have outbound : (a.initiator.onFrame payload).2.outbound = a.initiator.outbound := by
    rw [Initiator.onFrame]
    split
    · rfl
    · split <;> rfl
  rw [takeFrame]
  cases taken : a.initiator.onFrame payload with
  | mk result initiator =>
  rw [taken] at outbound
  have first : a.Reads (setStream { a.sending.stream with inbox := rest } { a with initiator }) :=
    ⟨rfl, ⟨rest, rfl⟩, rfl, outbound, fun _ ended => absurd running ended,
      fun _ => ⟨running, rfl⟩⟩
  cases result with
  | ok => exact first
  | error fault =>
      simp only
      split
      · exact first.trans (reads_stop _ (.failed fault) (Status.failed_ne_running fault))
      · exact first

theorem reads_readStep? (step : a.readStep? = some next) : a.Reads next := by
  rw [readStep?] at step
  split at step
  case isTrue => cases step
  case isFalse running =>
    split at step
    case isTrue =>
      cases step
      exact reads_stop a .finished Status.finished_ne_running
    case isFalse =>
      rw [readStream?] at step
      split at step
      case h_1 => cases step
      case h_2 payload rest _ =>
        cases step
        exact reads_takeFrame (Decidable.not_not.mp running) payload rest
      case h_3 =>
        cases step
        exact reads_stop a .finished Status.finished_ne_running
      case h_4 fault _ =>
        cases step
        exact reads_stop a (.failed fault) (Status.failed_ne_running fault)

theorem reads_settle (fuel : Nat) (a : Asking) : a.Reads (RoundTrip.settle readStep? fuel a) := by
  induction fuel generalizing a with
  | zero => exact .refl a
  | succ fuel ih =>
      rw [RoundTrip.settle]
      cases step : a.readStep? with
      | none => exact .refl a
      | some next => exact (reads_readStep? step).trans (ih next)

/-- Once the reader has ended, all is over when the writer has. -/
theorem finish_eq (ended : a.reader ≠ .running) :
    ∃ status summaries, a.finish = { a with status, summaries } ∧
      (status = .running → a.status = .running ∧ a.sending.writer.status = .running) ∧
      (status ≠ .running → a.status ≠ .running ∨ a.sending.writer.status ≠ .running) := by
  rw [finish]
  split
  case isTrue both =>
    refine ⟨_, _, rfl, fun goesOn => ?_, fun _ => .inr both.2.2⟩
    exact absurd goesOn (Status.and_ne_running both.2.1 both.2.2)
  case isFalse one =>
    refine ⟨_, _, rfl, fun goesOn => ?_, .inl⟩
    exact ⟨goesOn, Decidable.not_not.mp fun gone => one ⟨goesOn, ended, gone⟩⟩

end Asking

/-! ## The responder -/

namespace Answering

/-- A responder at work over a pipe: while it runs, it has not shut its write side. -/
structure Working (room : Nat) (closed : Bool) (a : Answering) : Prop where
  offered : a.stream.Offered room closed
  isOpen : a.status = .running → a.stream.writeClosed = false

/-- How many requests a responder can take at most. -/
def ahead (a : Answering) : Nat := if a.status = .running then a.stream.inbox.length + 1 else 0

variable {a next : Answering} {room : Nat} {closed : Bool}

theorem working_stop (working : a.Working room closed) (status : Status)
    (ended : status ≠ .running) :
    (a.stop status).Working room closed ∧ (a.stop status).ahead = 0 := by
  refine ⟨⟨?_, fun running => absurd running ended⟩, if_neg ended⟩
  rw [stop]
  split
  · exact Stream.offered_shutWrite working.offered
  · exact working.offered

theorem working_takeFrame (working : a.Working room closed) (running : a.status = .running)
    {payload rest : Bytes} (shorter : rest.length < a.stream.inbox.length) :
    (a.takeFrame payload rest).Working room closed ∧
      (a.takeFrame payload rest).ahead < a.ahead := by
  have taken (responder : Responder) :
      Working room closed { a with responder, stream := { a.stream with inbox := rest } } :=
    ⟨working.offered.update, working.isOpen⟩
  have fewer {other : Answering} (same : other.status = a.status)
      (inbox : other.stream.inbox = rest) : other.ahead < a.ahead := by
    rw [ahead, ahead, if_pos running, if_pos (same.trans running), inbox]
    omega
  rw [takeFrame]
  cases a.responder.reply payload with
  | mk answer responder =>
  cases answer with
  | error => exact ⟨taken responder, fewer rfl rfl⟩
  | ok reply =>
    simp only
    split
    · exact ⟨⟨(taken responder).offered, working.isOpen⟩, fewer rfl rfl⟩
    · obtain ⟨stopped, none⟩ :=
        working_stop (taken responder) (.failed _) (Status.failed_ne_running _)
      rw [none, ahead, if_pos running]
      exact ⟨stopped, Nat.succ_pos _⟩

/-- Taking a request, or finding no more of them, brings the responder nearer to its end. -/
theorem working_step? (working : a.Working room closed) (step : a.step? = some next) :
    next.Working room closed ∧ next.ahead + (if a.unsent = [] then 1 else 0) ≤ a.ahead := by
  rw [step?] at step
  split at step
  case isTrue => cases step
  case isFalse running =>
    have running : a.status = .running := Decidable.not_not.mp running
    have some : 1 ≤ a.ahead := by
      rw [ahead, if_pos running]
      exact Nat.le_add_left 1 _
    split at step
    case isTrue writing =>
      rw [if_neg writing]
      rw [write?] at step
      split at step
      case h_1 => cases step
      case h_2 =>
        cases step
        obtain ⟨stopped, none⟩ := working_stop working (.failed _) (Status.failed_ne_running _)
        exact ⟨stopped, none ▸ Nat.zero_le _⟩
      case h_3 unsent stream taken =>
        cases step
        obtain ⟨still, inbox, kept⟩ := Stream.offered_write working.offered taken
        refine ⟨⟨still, fun _ => kept.trans (working.isOpen running)⟩, ?_⟩
        rw [ahead, ahead, inbox]
        exact Nat.le_refl _
    case isFalse idle =>
      rw [if_pos (Decidable.not_not.mp idle)]
      have ends {status : Status} (ended : status ≠ .running) :
          (a.stop status).Working room closed ∧ (a.stop status).ahead + 1 ≤ a.ahead := by
        obtain ⟨stopped, none⟩ := working_stop working status ended
        exact ⟨stopped, none ▸ some⟩
      rw [read?] at step
      split at step
      case isTrue =>
        cases step
        exact ends Status.finished_ne_running
      case isFalse =>
        split at step
        case h_1 => cases step
        case h_2 payload rest found =>
          cases step
          exact working_takeFrame working running (Stream.length_rest_of_next found)
        case h_3 =>
          cases step
          exact ends Status.finished_ne_running
        case h_4 =>
          cases step
          exact ends (Status.failed_ne_running _)

theorem settleWithin_works (working : a.Working room closed) (operations : Nat) :
    (a.settleWithin operations).2.Working room closed ∧
      ((a.settleWithin operations).1 ≠ 0 → (a.settleWithin operations).2.step? = none) := by
  refine settleWithin_rests ahead (fun s next working step => ?_) working ?_
  · simpa using working_step? working step
  · rw [ahead]
    split <;> omega

/-- A responder that runs and can do nothing with a reply waits for room. -/
theorem waiting_of_rests (running : a.status = .running) (writing : a.unsent ≠ [])
    (rests : a.step? = none) : a.stream.write a.unsent = .waiting := by
  rw [step?, if_neg (not_not_intro running), if_pos writing, write?] at rests
  split at rests
  case h_1 waits => exact waits
  case h_2 => cases rests
  case h_3 => cases rests

end Answering

end RoundTrip
