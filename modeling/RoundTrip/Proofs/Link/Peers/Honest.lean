import RoundTrip.Proofs.Link.Peers.Active

/-!
# Peers that keep to the protocol

Every request that was queued is at one stage: its payload waits, its frame was begun,
it was taken by the responder, or its reply was taken (`Stages`). In this order they are
what is queued, the bytes on the way to the responder and the bytes on the way back
(`Flow`), and what is in flight balances with the ledger (`Ledger.Balances`). Two peers
of which this holds, and that are both at work, are `Honest`.

Main result: every step keeps them so, but for the reader's step that takes the reply to
a request that has timed out (`honest_step`).
-/

namespace RoundTrip

open RoundTrip.Frame (row)

/-! ## Where the requests are -/

/-- The requests that were queued, in this order, by how far they have come. -/
structure Stages where
  /-- The reply was taken. -/
  past : List Call := []
  /-- The request was taken. -/
  replies : List Call := []
  /-- The frame was begun. -/
  wire : List Call := []
  waiting : List Call := []

namespace Stages

def flights (s : Stages) : List Call := s.replies ++ s.wire ++ s.waiting

def queued (s : Stages) : List Call := s.past ++ s.flights

end Stages

namespace Peers

/-- What the peers keep and have on the way is what the stages say. -/
structure Flow (e : Exchange) (s : Stages) (p : Peers) : Prop where
  toInitiator : p.toInitiator = row (s.replies.map (·.reply e))
  toResponder : p.toResponder = row (s.wire.map (·.request e))
  waits : p.asking.sending.writer.queue ++ p.asking.initiator.outbound.queued =
    s.waiting.map (·.request e)
  asked : p.trail.asked = s.queued.map fun c => (c.slot, c.request e)
  served : p.trail.served = (s.past ++ s.replies).map fun c => (c.request e, c.reply e)
  settled : p.trail.settled.map (·.2) = s.past.map (·.reply e)

/-- Both sides are at work, and the ledger balances with what is in flight. -/
structure Honest (e : Exchange) (s : Stages) (p : Peers) : Prop where
  asking : p.asking.Active e
  answering : p.answering.Active e
  flow : p.Flow e s
  balances : p.asking.initiator.ledger.Balances (s.flights ++ p.calls) s.past
    (p.trail.settled.map (·.1)) p.trail.fired.length

/-- The initiator has closed, because a reply came to a request that had timed out. -/
structure Surprised (p : Peers) : Prop where
  reads : ∃ id ∈ p.asking.initiator.ledger.timedOut, p.asking.reader = .failed (.violation id)
  fired : p.trail.fired ≠ []
  writes : p.asking.sending.writer.status = .running
  answers : p.answering.status = .running
  askingFraming : p.asking.initiator.tally.framingErrors = 0
  answeringFraming : p.answering.responder.tally.framingErrors = 0

variable {e : Exchange} {s : Stages} {p : Peers}

theorem honest_start (e : Exchange) : (ofExchange e).Honest e {} where
  asking := by
    refine ⟨⟨rfl, ?_, rfl, ?_, rfl, rfl, rfl⟩, rfl, rfl, ⟨rfl, rfl, rfl, rfl⟩, rfl, rfl, rfl, rfl,
      rfl⟩
    · exact Initiator.sound_start e.uploadSize e.timeout 0
    · exact fun _ member => absurd member List.not_mem_nil
  answering := ⟨rfl, rfl, rfl, ⟨rfl, rfl, rfl, rfl⟩, rfl, rfl, rfl⟩
  flow := ⟨rfl, rfl, rfl, rfl, rfl, rfl⟩
  balances := by
    refine ⟨.refl [], fun _ => ⟨.refl [], rfl⟩, ?_, rfl⟩
    rintro slot ⟨m, nanos, present, -⟩
    cases present

/-! ## Callers -/

theorem honest_enter (honest : p.Honest e s) (draws : List CorrelationId) :
    (p.enter draws).Honest e s := by
  obtain ⟨asking, answering, flow, balances⟩ := honest
  have active := asking.initiator
  rcases Initiator.enter?_cases active.isOpen draws with ⟨fault, same⟩ | ⟨id, free, same⟩
  · rw [enter, same]
    refine ⟨{ asking with initiator := Initiator.active_fail active fault }, answering,
      { flow with }, ?_⟩
    simp only [Option.map_none, Option.toList_none, List.append_nil]
    exact Ledger.balances_fail balances fault
  · rw [enter, same]
    refine ⟨{ asking with initiator := Initiator.active_register active free }, answering,
      { flow with }, ?_⟩
    simp only [Option.map_some, Option.toList_some, Initiator.ledger_register active.sound free]
    refine (Ledger.balances_enter balances id _ _).perm ?_
    rw [← List.append_assoc]
    exact List.perm_append_singleton _ _

theorem honest_queue (honest : p.Honest e s) {call : Call} (member : call ∈ p.calls) :
    (p.queue call).Honest e { s with waiting := s.waiting ++ [call] } := by
  obtain ⟨asking, answering, flow, balances⟩ := honest
  have active := asking.initiator
  have request : Payload.request call.id p.asking.initiator.uploadSize = call.request e := by
    rw [active.size, Call.request]
  refine ⟨{ asking with initiator := Initiator.active_send active call.id }, answering, ?_, ?_⟩
  · refine { flow with waits := ?_, asked := ?_ }
    · simp only [queue, Initiator.send, active.listening, ↓reduceIte, request]
      rw [← List.append_assoc, flow.waits, List.map_append]
      rfl
    · simp only [queue, request, flow.asked, Stages.queued, Stages.flights, List.map_append,
        List.append_assoc]
      rfl
  · have moved : Stages.flights { s with waiting := s.waiting ++ [call] } ++ p.calls.erase call =
        s.flights ++ call :: p.calls.erase call := by
      simp [Stages.flights]
    simp only [queue, Initiator.ledger_send, moved]
    exact balances.perm ((List.perm_cons_erase member).symm.append_left _)

/-! ## The writer -/

theorem honest_passOn (honest : p.Honest e s) :
    Honest e s { p with asking := p.asking.passOn } := by
  obtain ⟨asking, answering, flow, balances⟩ := honest
  have active := asking.initiator
  rw [Asking.passOn_eq asking.senders asking.writes]
  refine ⟨?_, answering, { flow with waits := ?_ }, balances⟩
  · exact { asking with initiator := { active with sound := { active.sound with } } }
  · rw [List.append_nil]
    exact flow.waits

/-- Payloads that wait are small enough for a frame. -/
theorem fits_of_flow (accepted : e.accept = .ok e) (flow : p.Flow e s) :
    ∀ payload ∈ p.asking.sending.writer.queue, payload.length ≤ Frame.capacity e.maxFrameSize := by
  intro payload member
  have waits : payload ∈ s.waiting.map (·.request e) :=
    flow.waits ▸ List.mem_append_left _ member
  exact Frame.admits_iff.mp
    (Call.admits_map (fun c => c.admits_request accepted) s.waiting payload waits)

/-- The writer writes on, or begins the frame of the first request that waits. -/
theorem honest_sends (accepted : e.accept = .ok e) (honest : p.Honest e s) {sending : Sending}
    (step : p.asking.sending.step? = some sending) :
    ∃ s, Honest e s { p with asking.sending := sending } := by
  obtain ⟨asking, answering, flow, balances⟩ := honest
  have fits := asking.writerLimit ▸ fits_of_flow accepted flow
  rcases Sending.step?_cases asking.intact asking.working asking.senders fits step with
    ⟨-, rfl⟩ | ⟨idle, payload, queue, first, rfl⟩
  · refine ⟨s, ?_, answering, { flow with toInitiator := ?_, toResponder := ?_ }, balances⟩
    · exact
        { asking with
          intact := Stream.intact_accept asking.intact _
          goesOn := (Stream.ended_accept _ _).trans asking.goesOn }
    · rw [← flow.toInitiator]
      simp only [toInitiator, Sending.afterWrite, Stream.inbox_accept]
    · rw [← flow.toResponder]
      simp only [toResponder, Sending.afterWrite, List.append_assoc, Stream.written_accept]
  · have waits := flow.waits
    rw [first, List.cons_append] at waits
    obtain ⟨call, waiting, cut, rfl, rest⟩ := List.map_eq_cons_iff.mp waits.symm
    have before := flow.toResponder
    rw [toResponder, idle, List.append_nil] at before
    refine ⟨{ s with wire := s.wire ++ [call], waiting }, { asking with }, answering, ?_, ?_⟩
    · refine { flow with toResponder := ?_, waits := rest.symm, asked := ?_ }
      · simp only [toResponder, Sending.begun, before, List.map_append, Frame.row_append]
        simp
      · rw [flow.asked]
        simp [Stages.queued, Stages.flights, cut]
    · refine balances.perm ?_
      simp [Stages.flights, cut]

theorem honest_write (accepted : e.accept = .ok e) (honest : p.Honest e s) :
    ∃ s, Honest e s (p.step .write) := by
  have passed := honest_passOn honest
  rw [step, Asking.writeWithin_one]
  cases step : p.asking.passOn.sending.step? with
  | none =>
      rw [Option.getD_none, Asking.setSending_of_running passed.asking.writes]
      exact ⟨s, passed⟩
  | some sending =>
      obtain ⟨later, sends⟩ := honest_sends accepted passed step
      rw [Option.getD_some, Asking.setSending_of_running sends.asking.writes]
      exact ⟨later, sends⟩

/-! ## The streams -/

/-- Bytes that are carried stay on their way. -/
theorem toResponder_carryRequests (count : Nat) (p : Peers) :
    (p.carryRequests count).toResponder = p.toResponder := by
  simp only [toResponder, carryRequests, Stream.feed, List.append_assoc]
  rw [← List.append_assoc (List.take _ _), List.take_append_drop]

theorem toInitiator_carryReplies (count : Nat) (p : Peers) :
    (p.carryReplies count).toInitiator = p.toInitiator := by
  simp only [toInitiator, carryReplies, Stream.feed, List.append_assoc]
  rw [← List.append_assoc (List.take _ _), List.take_append_drop]

theorem honest_carryRequests (honest : p.Honest e s) (count : Nat) :
    (p.carryRequests count).Honest e s := by
  obtain ⟨asking, answering, flow, balances⟩ := honest
  refine ⟨{ asking with intact := asking.intact.update },
    { answering with intact := answering.intact.update }, { flow with toResponder := ?_ }, balances⟩
  rw [toResponder_carryRequests, flow.toResponder]

theorem honest_carryReplies (honest : p.Honest e s) (count : Nat) :
    (p.carryReplies count).Honest e s := by
  obtain ⟨asking, answering, flow, balances⟩ := honest
  refine ⟨{ asking with intact := asking.intact.update },
    { answering with intact := answering.intact.update }, { flow with toInitiator := ?_ }, balances⟩
  rw [toInitiator_carryReplies, flow.toInitiator]

theorem honest_requestRoom (honest : p.Honest e s) (room : Option Nat) :
    (p.step (.requestRoom room)).Honest e s := by
  obtain ⟨asking, answering, flow, balances⟩ := honest
  exact ⟨{ asking with intact := asking.intact.update }, answering, { flow with }, balances⟩

theorem honest_replyRoom (honest : p.Honest e s) (room : Option Nat) :
    (p.step (.replyRoom room)).Honest e s := by
  obtain ⟨asking, answering, flow, balances⟩ := honest
  exact ⟨asking, { answering with intact := answering.intact.update }, { flow with }, balances⟩

/-! ## The responder -/

/-- In front of the responder is the first request on the wire, or bytes of it. -/
theorem scan_requests (accepted : e.accept = .ok e) (flow : p.Flow e s) :
    Frame.scan e.maxFrameSize p.answering.stream.inbox = .incomplete ∨
      ∃ call wire rest, s.wire = call :: wire ∧
        Frame.scan e.maxFrameSize p.answering.stream.inbox = .frame (call.request e) rest ∧
        rest ++ (p.asking.sending.stream.written ++ p.asking.sending.writer.unsent) =
          row (wire.map (·.request e)) :=
  Call.scan_calls (fun c => c.admits_request accepted)
    ((List.append_assoc _ _ _).symm.trans flow.toResponder)

/-- What arrives is made of requests, so the responder does not end. -/
theorem not_ends (accepted : e.accept = .ok e) (honest : p.Honest e s) (status : Status) :
    ¬ Answering.Ends p.answering.limit p.answering.stream.ended p.answering.stream.inbox
      status := by
  intro ends
  rw [honest.answering.goesOn, honest.answering.limit] at ends
  cases ends with
  | finished ended => cases ended
  | truncated ended => cases ended
  | oversized tooLarge =>
      have found := Frame.scan_eq_oversized_iff.mpr tooLarge
      rcases scan_requests accepted honest.flow with waits | ⟨_, _, _, -, frame, -⟩
      · rw [waits] at found
        cases found
      · rw [frame] at found
        cases found

theorem serving?_of_writing (writing : p.answering.unsent ≠ []) : p.serving? = none := by
  rw [serving?]
  split
  case h_1 idle _ => exact absurd idle writing
  case h_2 => rfl

theorem serving?_of_frame (active : p.answering.Active e) (idle : p.answering.unsent = [])
    {call : Call} {rest : Bytes}
    (found : Frame.scan e.maxFrameSize p.answering.stream.inbox = .frame (call.request e) rest) :
    p.serving? = some (call.request e, call.reply e) := by
  rw [serving?, Stream.next_of_intact active.intact, active.limit, found, idle]
  simp only [Responder.reply, Payload.reply_of_long (call.width_le_request e), active.size]
  rfl

theorem honest_afterWrite (honest : p.Honest e s) :
    Honest e s { p with answering := p.answering.afterWrite } := by
  obtain ⟨asking, answering, flow, balances⟩ := honest
  refine ⟨asking, ?_, { flow with toInitiator := ?_, toResponder := ?_ }, balances⟩
  · refine
      { answering with
        size := ?_
        framing := ?_
        intact := Stream.intact_accept answering.intact _
        goesOn := (Stream.ended_accept _ _).trans answering.goesOn }
    · simp only [Answering.afterWrite]
      split <;> exact answering.size
    · simp only [Answering.afterWrite]
      split <;> exact answering.framing
  · rw [← flow.toInitiator]
    simp only [toInitiator, Answering.afterWrite, List.append_assoc, Stream.written_accept]
  · rw [← flow.toResponder]
    simp only [toResponder, Answering.afterWrite, Stream.inbox_accept]

/-- The responder takes a request, and its reply is on the way. -/
theorem honest_takeFrame (accepted : e.accept = .ok e) (honest : p.Honest e s)
    (idle : p.answering.unsent = []) {call : Call} {wire : List Call} {rest : Bytes}
    (first : s.wire = call :: wire)
    (left : rest ++ (p.asking.sending.stream.written ++ p.asking.sending.writer.unsent) =
      row (wire.map (·.request e))) :
    Honest e { s with replies := s.replies ++ [call], wire }
      { p with
        answering := p.answering.takeFrame (call.request e) rest
        trail.served := p.trail.served ++ [(call.request e, call.reply e)] } := by
  obtain ⟨asking, answering, flow, balances⟩ := honest
  have fits : e.replyLength ≤ Frame.capacity p.answering.limit :=
    answering.limit ▸ (Exchange.fits_of_accept accepted).2
  have before := flow.toInitiator
  rw [toInitiator, idle, List.append_nil] at before
  rw [Answering.takeFrame_of_long (call.width_le_request e) answering.size fits]
  refine ⟨asking, { answering with intact := answering.intact.update }, ?_, ?_⟩
  · refine { flow with toInitiator := ?_, toResponder := ?_, asked := ?_, served := ?_ }
    · simp only [toInitiator, before, List.map_append, Frame.row_append]
      simp [Call.reply]
    · rw [← left]
      simp only [toResponder, List.append_assoc]
    · rw [flow.asked]
      simp [Stages.queued, Stages.flights, first]
    · rw [flow.served]
      simp
  · refine balances.perm ?_
    simp [Stages.flights, first]

theorem honest_answer (accepted : e.accept = .ok e) (honest : p.Honest e s) :
    ∃ s, p.answer.Honest e s := by
  have active := honest.answering
  rw [answer]
  cases step : p.answering.step? with
  | none => exact ⟨s, honest⟩
  | some next =>
      rcases Answering.step?_cases active.intact active.working step with
        ⟨writing, rfl⟩ | ⟨idle, request, rest, found, rfl⟩ | ⟨-, status, ends, rfl⟩
      · rw [serving?_of_writing writing]
        simp only [Option.toList_none, List.append_nil]
        exact ⟨s, honest_afterWrite honest⟩
      · rw [active.limit] at found
        rcases scan_requests accepted honest.flow with waits | ⟨call, wire, _, first, frame, left⟩
        · rw [waits] at found
          cases found
        · rw [frame] at found
          cases found
          rw [serving?_of_frame active idle frame]
          exact ⟨_, honest_takeFrame accepted honest idle first left⟩
      · exact absurd ends (not_ends accepted honest status)

/-! ## The reader -/

/-- In front of the reader is the first reply on the wire, or bytes of it. -/
theorem scan_replies (accepted : e.accept = .ok e) (flow : p.Flow e s) :
    Frame.scan e.maxFrameSize p.asking.sending.stream.inbox = .incomplete ∨
      ∃ call replies rest, s.replies = call :: replies ∧
        Frame.scan e.maxFrameSize p.asking.sending.stream.inbox = .frame (call.reply e) rest ∧
        rest ++ (p.answering.stream.written ++ p.answering.unsent) =
          row (replies.map (·.reply e)) :=
  Call.scan_calls (fun c => c.admits_reply accepted)
    ((List.append_assoc _ _ _).symm.trans flow.toInitiator)

theorem settling?_of_frame (active : p.asking.Active e) {call : Call} {rest : Bytes}
    (found : Frame.scan e.maxFrameSize p.asking.sending.stream.inbox =
      .frame (call.reply e) rest) :
    p.settling? = p.asking.initiator.settling? (call.reply e) := by
  rw [settling?, Stream.next_of_intact active.intact, active.limit, found]

/-- The reader takes a reply to a request that has an entry. -/
theorem honest_settle (honest : p.Honest e s) {call : Call} {replies : List Call} {rest : Bytes}
    (first : s.replies = call :: replies)
    (left : rest ++ (p.answering.stream.written ++ p.answering.unsent) =
      row (replies.map (·.reply e)))
    {entry : Entry} (member : entry ∈ p.asking.initiator.ledger.table.entries)
    (named : entry.id = call.id) {initiator : Initiator} (active : initiator.Active e) (nanos : Nat)
    (struck : initiator.ledger = p.asking.initiator.ledger.strike entry (.answered nanos))
    (queued : initiator.outbound = p.asking.initiator.outbound) :
    Honest e { s with past := s.past ++ [call], replies }
      { p with
        asking.initiator := initiator
        asking.sending.stream.inbox := rest
        trail.settled := p.trail.settled ++ [(entry.slot, call.reply e)] } := by
  obtain ⟨asking, answering, flow, balances⟩ := honest
  refine ⟨{ asking with initiator := active, intact := asking.intact.update }, answering, ?_, ?_⟩
  · refine
      { flow with
        toInitiator := ?_
        waits := ?_
        asked := ?_
        served := ?_
        settled := ?_ }
    · rw [← left]
      simp only [toInitiator, List.append_assoc]
    · rw [← flow.waits, queued]
    · rw [flow.asked]
      simp [Stages.queued, Stages.flights, first]
    · rw [flow.served]
      simp [first]
    · rw [List.map_append, flow.settled]
      simp
  · rw [struck, List.map_append]
    refine Ledger.balances_answer asking.initiator.sound.ledger asking.initiator.held ?_ member
      named nanos
    refine balances.perm ?_
    simp [Stages.flights, first]

/-- The reader takes a reply to a request that has none. -/
theorem surprised_violate (honest : p.Honest e s) {call : Call} {rest : Bytes}
    (late : call.id ∈ p.asking.initiator.ledger.timedOut) {initiator : Initiator}
    (same : initiator =
      { p.asking.initiator with
        tally := (p.asking.initiator.tally.frameReceived (call.reply e).length).violation })
    (settled : List (Nat × Bytes)) :
    Surprised
      { p with
        asking := Asking.stop (.failed (.violation call.id))
          { p.asking with initiator, sending.stream.inbox := rest }
        trail.settled := settled } := by
  obtain ⟨asking, answering, -, balances⟩ := honest
  obtain ⟨-, sound, isOpen, -, -, framing, -⟩ := asking.initiator
  have sound : initiator.Sound := by
    rw [same]
    exact { sound with }
  have isOpen : initiator.isClosed = false := by
    rw [same]
    exact isOpen
  have closes := Initiator.onClose_eq sound
  rw [isOpen, if_neg Bool.false_ne_true] at closes
  constructor
  · refine ⟨call.id, ?_, rfl⟩
    simp only [Asking.stop, Asking.close, closes]
    rw [same]
    exact Ledger.timedOut_drain late
  · rw [← List.length_pos_iff_ne_nil, ← balances.late]
    exact List.length_pos_of_mem late
  · exact asking.writes
  · exact answering.answers
  · simp only [Asking.stop, Asking.close, closes]
    rw [same]
    exact framing
  · exact answering.framing

theorem honest_read (accepted : e.accept = .ok e) (honest : p.Honest e s) :
    (∃ s, p.read.Honest e s) ∨ p.read.Surprised := by
  have asking := honest.asking
  have reads := Asking.readStep?_of_intact asking.intact asking.goesOn asking.working asking.reads
  rw [asking.limit] at reads
  rcases scan_replies accepted honest.flow with waits | ⟨call, replies, rest, first, found, left⟩
  · simp only [waits] at reads
    simp only [read, reads]
    exact .inl ⟨s, honest⟩
  · simp only [found] at reads
    simp only [read, reads, settling?_of_frame asking found]
    rcases asking.initiator.onFrame_reply call with
      ⟨unknown, same⟩ | ⟨entry, member, named, settles, result, struck, queued, active⟩
    · rw [Asking.takeFrame_of_violation (congrArg Prod.fst same)]
      have flies : call ∈ s.flights ++ p.calls := by simp [Stages.flights, first]
      have late := honest.balances.timedOut_of_unknown flies unknown
      exact .inr (surprised_violate honest late (congrArg Prod.snd same) _)
    · rw [settles, Asking.takeFrame_of_ok result]
      exact .inl ⟨_, honest_settle honest first left member named active _ struck queued⟩

/-! ## Deadlines and time -/

theorem honest_fire (honest : p.Honest e s) (number : Nat) : (p.fire number).Honest e s := by
  obtain ⟨asking, answering, flow, balances⟩ := honest
  have active := Initiator.active_fire asking.initiator number
  rw [fire]
  rcases Initiator.fire_cases asking.initiator.sound number with
    ⟨-, same⟩ | ⟨entry, member, -, same⟩
  · rw [same] at active ⊢
    exact ⟨{ asking with initiator := active }, answering, { flow with }, balances⟩
  · rw [same] at active ⊢
    refine ⟨{ asking with initiator := active }, answering, { flow with }, ?_⟩
    simp only [↓reduceIte, List.length_append]
    exact Ledger.balances_expire asking.initiator.sound.ledger asking.initiator.held balances member

theorem honest_advance (honest : p.Honest e s) (nanos : Nat) :
    (p.step (.advance nanos)).Honest e s := by
  obtain ⟨asking, answering, flow, balances⟩ := honest
  have active := asking.initiator
  refine ⟨?_, answering, { flow with }, balances⟩
  exact { asking with initiator := { active with sound := { active.sound with } } }

/-! ## Runs -/

/-- Every step keeps the peers honest, but for a reply that comes too late. -/
theorem honest_step (accepted : e.accept = .ok e) (honest : p.Honest e s) (move : Move) :
    (∃ s, (p.step move).Honest e s) ∨ (p.step move).Surprised := by
  cases move with
  | enter draws => exact .inl ⟨s, honest_enter honest draws⟩
  | queue call =>
      rw [step]
      split
      case isTrue member => exact .inl ⟨_, honest_queue honest member⟩
      case isFalse => exact .inl ⟨s, honest⟩
  | write => exact .inl (honest_write accepted honest)
  | carryRequests count => exact .inl ⟨s, honest_carryRequests honest count⟩
  | answer => exact .inl (honest_answer accepted honest)
  | carryReplies count => exact .inl ⟨s, honest_carryReplies honest count⟩
  | read => exact honest_read accepted honest
  | fire number => exact .inl ⟨s, honest_fire honest number⟩
  | advance nanos => exact .inl ⟨s, honest_advance honest nanos⟩
  | requestRoom room => exact .inl ⟨s, honest_requestRoom honest room⟩
  | replyRoom room => exact .inl ⟨s, honest_replyRoom honest room⟩

/-- An initiator that was surprised has closed. -/
theorem act_of_surprised (surprised : p.Surprised) (move : Move) : p.act move = p := by
  obtain ⟨id, -, stopped⟩ := surprised.reads
  have closed : p.isOpen = false := by simp [isOpen, stopped]
  rw [act, closed, if_neg Bool.false_ne_true]

theorem honest_act (accepted : e.accept = .ok e)
    (before : (∃ s, p.Honest e s) ∨ p.Surprised) (move : Move) :
    (∃ s, (p.act move).Honest e s) ∨ (p.act move).Surprised := by
  rcases before with ⟨s, honest⟩ | surprised
  · have isOpen : p.isOpen = true := by
      simp [Peers.isOpen, honest.asking.reads, honest.answering.answers]
    rw [act, if_pos isOpen]
    exact honest_step accepted honest move
  · rw [act_of_surprised surprised]
    exact .inr surprised

theorem honest_run (accepted : e.accept = .ok e)
    (before : (∃ s, p.Honest e s) ∨ p.Surprised) (moves : List Move) :
    (∃ s, (p.run moves).Honest e s) ∨ (p.run moves).Surprised := by
  induction moves generalizing p with
  | nil => exact before
  | cons move moves ih => exact ih (honest_act accepted before move)

end Peers

end RoundTrip
