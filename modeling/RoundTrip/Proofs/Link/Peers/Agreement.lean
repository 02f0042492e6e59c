import RoundTrip.Proofs.Link.Peers.Honest

/-!
# What two peers make of each other

What is on the way between two peers, whichever way they have come, is read off the stages
of their requests: whole frames, and ids that are outstanding. A round trip that a
measurement has got is that of its own request.

Main result: neither side finds anything wrong with the frames of the other one, and the
initiator is surprised only by the reply to a request that has timed out
(`honest_peers_agree`).
-/

namespace RoundTrip

namespace Peers

variable {e : Exchange} {s : Stages} {p : Peers}

/-! ## What is on the way -/

/-- The bytes on their way are whole frames. -/
theorem drain_toInitiator (accepted : e.accept = .ok e) (honest : p.Honest e s) :
    Frame.drain p.asking.limit p.toInitiator = ⟨s.replies.map (·.reply e), [], none⟩ := by
  rw [honest.asking.limit, honest.flow.toInitiator]
  exact Call.drain_calls (fun c => c.admits_reply accepted) s.replies

theorem drain_toResponder (accepted : e.accept = .ok e) (honest : p.Honest e s) :
    Frame.drain p.answering.limit p.toResponder = ⟨s.wire.map (·.request e), [], none⟩ := by
  rw [honest.answering.limit, honest.flow.toResponder]
  exact Call.drain_calls (fun c => c.admits_request accepted) s.wire

theorem read_inFlight (accepted : e.accept = .ok e) (honest : p.Honest e s) :
    p.inFlight.map CorrelationId.read = (s.flights.map (·.id)).map .ok := by
  rw [inFlight, drain_toInitiator accepted honest, drain_toResponder accepted honest,
    List.append_assoc, honest.flow.waits, Stages.flights]
  simp [Function.comp_def, Call.read_request, Call.read_reply]

theorem timedOut_eq_nil (honest : p.Honest e s) (none : p.trail.fired = []) :
    p.asking.initiator.ledger.timedOut = [] := by
  rw [← List.length_eq_zero_iff, honest.balances.late, none]
  rfl

/-- Ids in flight are outstanding, each of them once. -/
theorem outstanding_flights (honest : p.Honest e s) (none : p.trail.fired = []) :
    (s.flights.map (·.id)).Nodup ∧
      ∀ id ∈ s.flights.map (·.id), p.asking.initiator.ledger.table.contains id = true := by
  have ids := honest.balances.ids
  rw [timedOut_eq_nil honest none, List.append_nil, List.map_append] at ids
  constructor
  · have distinct := ids.nodup_iff.mpr honest.asking.initiator.sound.ledger.distinct
    exact distinct.sublist (List.sublist_append_left _ _)
  · intro id member
    obtain ⟨entry, entered, same⟩ :=
      List.mem_map.mp (ids.subset (List.mem_append_left _ member))
    exact Outstanding.contains_iff.mpr ⟨entry, entered, same⟩

theorem settled_eq (honest : p.Honest e s) (none : p.trail.fired = []) :
    p.trail.settled = s.past.map fun c => (c.slot, c.reply e) := by
  have slots := (honest.balances.own (timedOut_eq_nil honest none)).2
  calc
    p.trail.settled = (p.trail.settled.map (·.1)).zip (p.trail.settled.map (·.2)) := by
      simpa only [List.unzip_eq_map] using (List.zip_unzip p.trail.settled).symm
    _ = (s.past.map (·.slot)).zip (s.past.map (·.reply e)) := by rw [slots, honest.flow.settled]
    _ = s.past.map fun c => (c.slot, c.reply e) := List.zip_map'

/-- What was answered was answered by the reply that the responder made for its own
request. -/
theorem own_reply (honest : p.Honest e s) (none : p.trail.fired = []) {slot : Nat}
    (answered : p.asking.initiator.ledger.Answered slot) :
    ∃ (j : Nat) (request reply : Bytes), p.trail.asked[j]? = some (slot, request) ∧
      p.trail.served[j]? = some (request, reply) ∧ p.trail.settled[j]? = some (slot, reply) := by
  obtain ⟨⟨_, _⟩, member, rfl⟩ := List.mem_map.mp (honest.balances.told slot answered)
  rw [settled_eq honest none] at member
  obtain ⟨j, there⟩ := List.getElem?_of_mem member
  rw [List.getElem?_map] at there
  obtain ⟨call, past, same⟩ := Option.map_eq_some_iff.mp there
  cases same
  have inside : j < s.past.length := (List.getElem?_eq_some_iff.mp past).1
  refine ⟨j, call.request e, call.reply e, ?_, ?_, ?_⟩
  · rw [honest.flow.asked, List.getElem?_map, Stages.queued, List.getElem?_append_left inside, past]
    rfl
  · rw [honest.flow.served, List.getElem?_map, List.getElem?_append_left inside, past]
    rfl
  · rw [settled_eq honest none, List.getElem?_map, past]
    rfl

/-- For two peers of one exchange, whatever their parts do and in whatever order: neither
side finds a frame that is malformed or too large, and the responder and the writer go on.
If the reader stops, it is at the reply to a request that has timed out. As long as no
deadline has fired, the reader goes on; what is on the way are whole frames; all payloads
that are queued, on the way or being answered have ids, no two of them the same, of
requests that are outstanding; and a measurement that is answered got the reply that the
responder gave to the request of this measurement. -/
theorem honest_peers_agree (accepted : e.accept = .ok e) (moves : List Move) :
    let p := (ofExchange e).run moves
    let i := p.asking.initiator
    i.tally.framingErrors = 0 ∧ p.answering.responder.tally.framingErrors = 0 ∧
    p.answering.status = .running ∧ p.asking.sending.writer.status = .running ∧
    (p.asking.reader = .running ∨
      ∃ id ∈ i.ledger.timedOut, p.asking.reader = .failed (.violation id)) ∧
    (p.trail.fired = [] →
      p.asking.reader = .running ∧ i.tally.violations = 0 ∧
      (Frame.drain p.asking.limit p.toInitiator).rest = [] ∧
      (Frame.drain p.answering.limit p.toResponder).rest = [] ∧
      (∃ ids : List CorrelationId, p.inFlight.map CorrelationId.read = ids.map .ok ∧ ids.Nodup ∧
        ∀ id ∈ ids, i.ledger.table.contains id = true) ∧
      ∀ slot, i.ledger.Answered slot →
        ∃ (j : Nat) (request reply : Bytes), p.trail.asked[j]? = some (slot, request) ∧
          p.trail.served[j]? = some (request, reply) ∧
          p.trail.settled[j]? = some (slot, reply)) := by
  intro p i
  rcases honest_run accepted (.inl ⟨_, honest_start e⟩) moves with ⟨s, honest⟩ | surprised
  · have honest : p.Honest e s := honest
    have initiator := honest.asking.initiator
    refine ⟨initiator.framing, honest.answering.framing, honest.answering.answers,
      honest.asking.writes, .inl honest.asking.reads, fun none => ?_⟩
    refine ⟨honest.asking.reads, initiator.violations, ?_, ?_, ?_, ?_⟩
    · rw [drain_toInitiator accepted honest]
    · rw [drain_toResponder accepted honest]
    · exact ⟨s.flights.map (·.id), read_inFlight accepted honest, outstanding_flights honest none⟩
    · exact fun slot answered => own_reply honest none answered
  · exact ⟨surprised.askingFraming, surprised.answeringFraming, surprised.answers,
      surprised.writes, .inr surprised.reads, fun none => absurd none surprised.fired⟩

/-- Two requests are queued in another order than they were entered, and their frames are
cut. The reply to one of them is taken; the deadline of the other one fires while its
reply is on the way, and the reply is a violation then. -/
theorem honest_peers_agree_late :
    let e : Exchange := { uploadSize := 1, downloadSize := 0, maxFrameSize := some 5 }
    let moves : List Move :=
      [.enter [7], .enter [7, 9], .queue ⟨1, 9⟩, .queue ⟨0, 7⟩, .requestRoom (some 3), .write,
        .write, .carryRequests 2, .answer, .requestRoom none, .write, .write, .write,
        .carryRequests 100, .answer, .answer, .answer, .answer, .carryReplies 5, .read,
        .carryReplies 100, .advance 5, .read]
    let p := (ofExchange e).run moves
    let later := (ofExchange e).run (moves ++ [.fire 0, .read])
    e.accept = .ok e ∧
      (p.trail.fired = [] ∧ p.asking.initiator.ledger.Answered 1 ∧
        ∃ (j : Nat) (request reply : Bytes), p.trail.asked[j]? = some (1, request) ∧
          p.trail.served[j]? = some (request, reply) ∧ p.trail.settled[j]? = some (1, reply)) ∧
      later.asking.reader = .failed (.violation 7) ∧
      later.asking.initiator.ledger.timedOut = [7] := by
  intro e moves
  dsimp only
  have accepted : e.accept = .ok e := rfl
  have agree := honest_peers_agree accepted moves
  have none : ((ofExchange e).run moves).trail.fired = [] := by decide +kernel
  have answered : ((ofExchange e).run moves).asking.initiator.ledger.Answered 1 := by
    refine ⟨⟨some 9, .settled (.answered 5), true⟩, 5, ?_, rfl⟩
    decide +kernel
  refine ⟨accepted, ⟨none, answered, (agree.2.2.2.2.2 none).2.2.2.2.2 1 answered⟩, ?_⟩
  decide +kernel

end Peers

end RoundTrip
