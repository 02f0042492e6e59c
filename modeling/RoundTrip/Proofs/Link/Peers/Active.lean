import RoundTrip.Proofs.Initiator.Settling
import RoundTrip.Proofs.Link.Answering
import RoundTrip.Proofs.Link.Asking
import RoundTrip.Proofs.Link.Peers

/-!
# Parts of two peers at work

The payloads of requests and of their replies fit into the frames of an exchange that is
accepted, so a reader of such frames finds the next one or waits for it
(`Call.scan_calls`). A side is at work as long as it has not closed and has found nothing
wrong with a frame (`Initiator.Active`, `Asking.Active`, `Answering.Active`); what its
callers do, deadlines and the replies to outstanding requests leave it at work.
-/

namespace RoundTrip

open RoundTrip.Frame (row Admits)

/-! ## Requests and replies -/

namespace Call

/-- The payload of a request. -/
def request (e : Exchange) (c : Call) : Bytes := Payload.request c.id e.uploadSize

/-- The payload of the reply to it. -/
def reply (e : Exchange) (c : Call) : Bytes := Answering.replyTo e (c.request e)

variable (e : Exchange) (c : Call)

theorem length_request : (c.request e).length = e.requestLength :=
  Payload.length_request c.id e.uploadSize

theorem width_le_request : CorrelationId.width ≤ (c.request e).length := by
  rw [length_request]
  exact Nat.le_add_right _ _

theorem length_reply : (c.reply e).length = e.replyLength :=
  Answering.length_replyTo (c.width_le_request e)

theorem read_request : CorrelationId.read (c.request e) = .ok c.id :=
  Payload.read_request c.id e.uploadSize

/-- A reply names its request. -/
theorem read_reply : CorrelationId.read (c.reply e) = .ok c.id := by
  rw [CorrelationId.read_eq_ok_iff, reply, Answering.replyTo, request, Payload.request,
    List.take_left' (Word.length_littleEndian c.id)]
  exact List.prefix_append _ _

variable {e} (accepted : e.accept = .ok e)

include accepted in
theorem admits_request : Admits e.maxFrameSize (c.request e).length := by
  rw [length_request, Frame.admits_iff]
  exact (Exchange.fits_of_accept accepted).1

include accepted in
theorem admits_reply : Admits e.maxFrameSize (c.reply e).length := by
  rw [length_reply, Frame.admits_iff]
  exact (Exchange.fits_of_accept accepted).2

section Frames

variable {limit : Limit} {payload : Call → Bytes} (admits : ∀ c, Admits limit (payload c).length)

include admits

theorem admits_map (calls : List Call) :
    ∀ bytes ∈ calls.map payload, Admits limit bytes.length := by
  intro bytes member
  obtain ⟨call, -, rfl⟩ := List.mem_map.mp member
  exact admits call

/-- Of frames that are on their way the first one is there, or bytes of it are missing. -/
theorem scan_calls {calls : List Call} {inbox coming : Bytes}
    (whole : inbox ++ coming = row (calls.map payload)) :
    Frame.scan limit inbox = .incomplete ∨
      ∃ call later rest, calls = call :: later ∧
        Frame.scan limit inbox = .frame (payload call) rest ∧
        rest ++ coming = row (later.map payload) := by
  rcases Frame.scan_of_row (admits_map admits calls) whole with
    waits | ⟨bytes, tail, rest, cut, found, left⟩
  · exact .inl waits
  · obtain ⟨call, later, first, rfl, rfl⟩ := List.map_eq_cons_iff.mp cut
    exact .inr ⟨call, later, rest, first, found, left⟩

theorem drain_calls (calls : List Call) :
    Frame.drain limit (row (calls.map payload)) = ⟨calls.map payload, [], none⟩ := by
  have drained := Frame.drain_row (admits_map admits calls) []
  rw [Frame.drain_of_unfinished (Frame.unfinished_nil limit)] at drained
  simpa using drained

end Frames

end Call

/-! ## Parts at work -/

/-- An initiator that has not closed, and that has seen nothing but replies. -/
structure Initiator.Active (e : Exchange) (i : Initiator) : Prop where
  size : i.uploadSize = e.uploadSize
  sound : i.Sound
  isOpen : i.isClosed = false
  held : i.ledger.Held
  listening : i.outbound.listening = true
  framing : i.tally.framingErrors = 0
  violations : i.tally.violations = 0

/-- The asking side reads and writes. -/
structure Asking.Active (e : Exchange) (a : Asking) : Prop where
  initiator : a.initiator.Active e
  limit : a.limit = e.maxFrameSize
  writerLimit : a.sending.writer.limit = e.maxFrameSize
  intact : a.sending.stream.Intact
  goesOn : a.sending.stream.ended = false
  working : a.sending.shutdown = false
  senders : a.sending.writer.senders = true
  writes : a.sending.writer.status = .running
  reads : a.reader = .running

/-- The answering side answers. -/
structure Answering.Active (e : Exchange) (a : Answering) : Prop where
  limit : a.limit = e.maxFrameSize
  size : a.responder.downloadSize = e.downloadSize
  framing : a.responder.tally.framingErrors = 0
  intact : a.stream.Intact
  goesOn : a.stream.ended = false
  working : a.shutdown = false
  answers : a.status = .running

namespace Initiator

variable {e : Exchange} {i : Initiator}

theorem enter?_cases (isOpen : i.isClosed = false) (draws : List CorrelationId) :
    (∃ fault, i.enter? draws = (none, i.fail fault)) ∨
      ∃ id, i.ledger.table.refusal? id = none ∧ i.enter? draws = (some id, i.register id) := by
  rw [enter?, isOpen, if_neg Bool.false_ne_true]
  cases found : i.freeId? draws with
  | none => exact .inl ⟨exhausted, rfl⟩
  | some id => exact .inr ⟨id, by simpa using List.find?_some found, rfl⟩

theorem active_fail (active : i.Active e) (fault : Fault) : (i.fail fault).Active e :=
  { active with
    sound := sound_fail active.sound fault
    held := Ledger.held_append active.held rfl }

theorem active_register (active : i.Active e) {id : CorrelationId}
    (free : i.ledger.table.refusal? id = none) : (i.register id).Active e := by
  refine { active with sound := sound_register active.sound free, held := ?_ }
  rw [ledger_register active.sound free]
  exact Ledger.held_append active.held rfl

theorem active_send (active : i.Active e) (id : CorrelationId) : (i.send id).Active e where
  size := (send_frame id i).1.trans active.size
  sound := sound_send active.sound id
  isOpen := by
    rw [isClosed, ledger_send]
    exact active.isOpen
  held := by
    rw [ledger_send]
    exact active.held
  listening := (send_frame id i).2.2.trans active.listening
  framing := by
    rw [send, if_pos active.listening]
    exact active.framing
  violations := by
    rw [send, if_pos active.listening]
    exact active.violations

theorem active_fire (active : i.Active e) (number : Nat) : (i.fire number).2.Active e := by
  have sound := sound_fire active.sound number
  rcases fire_cases active.sound number with ⟨-, same⟩ | ⟨entry, -, -, same⟩
  · rw [same] at sound ⊢
    exact { active with sound }
  · rw [same] at sound ⊢
    exact { active with sound, held := Ledger.held_strike active.held entry _ }

/-- The reply to a request settles it, if it has an entry, and is a violation
otherwise. -/
theorem Active.onFrame_reply (active : i.Active e) (c : Call) :
    ((∀ entry ∈ i.ledger.table.entries, entry.id ≠ c.id) ∧
      i.onFrame (c.reply e) = (.error (.violation c.id),
        { i with tally := (i.tally.frameReceived (c.reply e).length).violation })) ∨
    ∃ entry ∈ i.ledger.table.entries, entry.id = c.id ∧
      i.settling? (c.reply e) = some (entry.slot, c.reply e) ∧
      (i.onFrame (c.reply e)).1 = .ok (Clock.elapsed entry.sentAt i.clock) ∧
      (i.onFrame (c.reply e)).2.ledger =
        i.ledger.strike entry (.answered (Clock.elapsed entry.sentAt i.clock)) ∧
      (i.onFrame (c.reply e)).2.outbound = i.outbound ∧
      (i.onFrame (c.reply e)).2.Active e := by
  have named := CorrelationId.read_eq_ok_iff.mp (c.read_reply e)
  rcases onFrame_cases active.sound (c.reply e) with
    ⟨short, -⟩ | ⟨id, alsoNamed, unknown, same⟩ | ⟨entry, member, alsoNamed, same⟩
  · exact absurd named.length_le (Nat.not_le_of_lt short)
  · rw [CorrelationId.eq_of_prefix alsoNamed named] at unknown same
    exact .inl ⟨unknown, same⟩
  · have id := CorrelationId.eq_of_prefix alsoNamed named
    have found := (Outstanding.find?_eq_some_iff active.sound.ledger.distinct).mpr ⟨member, id⟩
    have sound := sound_onFrame active.sound (c.reply e)
    refine .inr ⟨entry, member, id, ?_, ?_⟩
    · rw [settling?, c.read_reply e]
      simp [found]
    · rw [same] at sound ⊢
      exact ⟨rfl, rfl, rfl,
        { active with sound, held := Ledger.held_strike active.held entry _ }⟩

end Initiator

end RoundTrip
