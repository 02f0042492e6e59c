import RoundTrip.Proofs.Initiator.History

/-!
# What the counters of an initiator count

The counters are raised in other places than those where requests are made and
settled. `Tally.Adds` says of two states of the counters that certain payloads went
out, certain frames were taken and certain outcomes were given in between. Every event
adds just what it adds to the history (`adds_act`), and what is added adds up
(`Tally.Adds.trans`).

Main result: after any number of events the counters say how many requests and bytes
went out, how many frames and bytes came in, and what became of every request and of
every frame (`counters_conserved`). They wrap, so all this is said modulo 2⁶⁴.
-/

namespace RoundTrip

namespace Event

/-- A request is settled by an event or left by it. -/
theorem length_outcomes (entries : List Entry) (now : Nat) (event : Event) :
    (event.outcomes entries now).length + (entries.filter (!event.settles ·)).length =
      entries.length := by
  induction entries with
  | nil => rfl
  | cons entry entries ih =>
      have settled := settles_eq entry (Clock.elapsed entry.sentAt now) event
      rw [outcomes] at ih ⊢
      cases given : event.outcome? entry (Clock.elapsed entry.sentAt now) with
      | none =>
          rw [given] at settled
          simp only [List.filterMap_cons, given, List.filter_cons, settled, Option.isSome_none,
            Bool.not_false, ↓reduceIte, List.length_cons]
          omega
      | some outcome =>
          rw [given] at settled
          simp only [List.filterMap_cons, given, List.filter_cons, settled, Option.isSome_some,
            Bool.not_true, Bool.false_eq_true, ↓reduceIte, List.length_cons]
          omega

end Event

namespace Tally

/-- Between two states of the counters some payloads went out, some frames were taken
and some requests were settled. -/
structure Adds (before after : Tally) (queued taken : List Bytes) (outcomes : List Outcome) :
    Prop where
  requestsSent : after.requestsSent = before.requestsSent + UInt64.ofNat queued.length
  bytesSent : after.bytesSent = before.bytesSent + UInt64.ofNat (queued.map List.length).sum
  bytesReceived : after.bytesReceived =
    before.bytesReceived + UInt64.ofNat (taken.map List.length).sum
  repliesReceived : after.repliesReceived =
    before.repliesReceived + UInt64.ofNat (outcomes.filterMap (·.nanos?)).length
  roundTripMicros : after.roundTripMicros =
    before.roundTripMicros + UInt64.ofNat ((outcomes.filterMap (·.nanos?)).map micros).sum
  frames : after.repliesReceived + after.violations + after.framingErrors =
    before.repliesReceived + before.violations + before.framingErrors + UInt64.ofNat taken.length
  requests : after.repliesReceived + after.timeouts + after.closedFailures =
    before.repliesReceived + before.timeouts + before.closedFailures +
      UInt64.ofNat outcomes.length

theorem adds_nothing (t : Tally) : Adds t t [] [] [] := by
  constructor <;> simp

theorem Adds.trans {first second third : Tally} {queued queued' taken taken' : List Bytes}
    {outcomes outcomes' : List Outcome} (earlier : Adds first second queued taken outcomes)
    (later : Adds second third queued' taken' outcomes') :
    Adds first third (queued ++ queued') (taken ++ taken') (outcomes ++ outcomes') := by
  constructor
  · rw [later.requestsSent, earlier.requestsSent]
    simp [UInt64.add_assoc]
  · rw [later.bytesSent, earlier.bytesSent]
    simp [UInt64.add_assoc]
  · rw [later.bytesReceived, earlier.bytesReceived]
    simp [UInt64.add_assoc]
  · rw [later.repliesReceived, earlier.repliesReceived]
    simp [UInt64.add_assoc]
  · rw [later.roundTripMicros, earlier.roundTripMicros]
    simp [UInt64.add_assoc]
  · rw [later.frames, earlier.frames]
    simp [UInt64.add_assoc]
  · rw [later.requests, earlier.requests]
    simp [UInt64.add_assoc]

theorem adds_requestSent (payload : Bytes) (t : Tally) :
    Adds t (t.requestSent payload.length) [payload] [] [] := by
  constructor <;> simp [requestSent]

theorem adds_framingError (payload : Bytes) (t : Tally) :
    Adds t (t.frameReceived payload.length).framingError [] [payload] [] := by
  constructor <;> simp [frameReceived, framingError, UInt64.add_assoc]

theorem adds_violation (payload : Bytes) (t : Tally) :
    Adds t (t.frameReceived payload.length).violation [] [payload] [] := by
  constructor <;> simp [frameReceived, violation]
  ac_rfl

theorem adds_replyMatched (payload : Bytes) (nanos : Nat) (t : Tally) :
    Adds t ((t.frameReceived payload.length).replyMatched nanos) [] [payload]
      [.answered nanos] := by
  constructor <;> simp [frameReceived, replyMatched, Outcome.nanos?] <;> ac_rfl

theorem adds_timedOut (t : Tally) : Adds t t.timedOut [] [] [.failed .timeout] := by
  constructor <;> simp [timedOut, Outcome.nanos?]
  ac_rfl

theorem adds_failedOnClose (count : Nat) (t : Tally) :
    Adds t (t.failedOnClose count) [] [] (List.replicate count (.failed .closed)) := by
  have unanswered : (List.replicate count (Outcome.failed .closed)).filterMap (·.nanos?) = [] :=
    List.filterMap_replicate_of_none rfl
  constructor <;> simp [failedOnClose, unanswered, UInt64.add_assoc]

end Tally

namespace Initiator

/-! ## The outcomes that an event gives -/

theorem outcomes_of_quiet {i : Initiator} {event : Event} (quiet : i.Quiet event) :
    event.outcomes i.ledger.table.entries i.clock = [] := by
  rw [Event.outcomes, List.filterMap_eq_nil_iff]
  intro entry member
  exact Event.outcome?_eq_none (quiet entry member) _

theorem outcomes_of_decides {i : Initiator} (sound : i.Sound) {event : Event} {entry : Entry}
    {outcome : Outcome} (decides : i.Decides event entry outcome) :
    event.outcomes i.ledger.table.entries i.clock = [outcome] := by
  -- The entries before and after this one have other ids, and are left unsettled.
  obtain ⟨first, last, split⟩ := List.append_of_mem decides.member
  have distinct := sound.ledger.distinct
  rw [split, List.map_append, List.map_cons, List.nodup_middle, List.nodup_cons] at distinct
  have none_of_other : ∀ other ∈ first ++ last,
      event.outcome? other (Clock.elapsed other.sentAt i.clock) = none := by
    intro other member
    have different : other.id ≠ entry.id := by
      intro same
      apply distinct.1
      rw [← same, ← List.map_append]
      exact List.mem_map_of_mem member
    refine Event.outcome?_eq_none (decides.others other ?_ different) _
    rw [split]
    simpa [or_left_comm] using Or.inr (List.mem_append.mp member)
  rw [Event.outcomes, split, List.filterMap_append, List.filterMap_cons, decides.given,
    List.filterMap_eq_nil_iff.mpr fun other member =>
      none_of_other other (List.mem_append_left last member),
    List.filterMap_eq_nil_iff.mpr fun other member =>
      none_of_other other (List.mem_append_right first member)]
  rfl

theorem outcomes_close (i : Initiator) :
    Event.close.outcomes i.ledger.table.entries i.clock =
      List.replicate i.pendingCount (.failed .closed) := by
  rw [Event.outcomes, pendingCount, Outstanding.count, ← List.map_const']
  exact congrFun List.filterMap_eq_map i.ledger.table.entries

/-! ## What one event adds to the counters -/

theorem adds_measure {i : Initiator} (draws : List CorrelationId) :
    Tally.Adds i.tally (i.measure draws).tally
      ((i.measure draws).outbound.queued.drop i.outbound.queued.length) [] [] := by
  rcases measure_cases draws i with ⟨fault, same⟩ | ⟨id, -, same⟩
  · rw [same, show (i.fail fault).outbound = i.outbound from rfl, List.drop_length]
    exact Tally.adds_nothing i.tally
  · have sent := queued_send id (i.register id)
    rw [same, show i.outbound = (i.register id).outbound from rfl, sent]
    cases listening : (i.register id).outbound.listening with
    | false =>
        simp only [send, listening, Bool.false_eq_true, ↓reduceIte]
        exact Tally.adds_nothing i.tally
    | true =>
        simp only [send, listening, ↓reduceIte]
        exact Tally.adds_requestSent (Payload.request id i.uploadSize) i.tally

theorem adds_onFrame {i : Initiator} (sound : i.Sound) (payload : Bytes) :
    Tally.Adds i.tally (i.onFrame payload).2.tally [] [payload]
      ((Event.frame payload).outcomes i.ledger.table.entries i.clock) := by
  rcases onFrame_cases sound payload with
    ⟨short, same⟩ | ⟨id, named, unknown, same⟩ | ⟨entry, member, named, same⟩
  · rw [same, outcomes_of_quiet (quiet_of_short short)]
    exact Tally.adds_framingError payload i.tally
  · rw [same, outcomes_of_quiet (quiet_of_unknown named unknown)]
    exact Tally.adds_violation payload i.tally
  · rw [same, outcomes_of_decides sound (decides_of_named member named)]
    exact Tally.adds_replyMatched payload _ i.tally

theorem adds_fire {i : Initiator} (sound : i.Sound) (number : Nat) :
    Tally.Adds i.tally (i.fire number).2.tally [] []
      ((Event.fire number).outcomes i.ledger.table.entries i.clock) := by
  rcases fire_cases sound number with ⟨unarmed, same⟩ | ⟨entry, member, armed, same⟩
  · rw [same, outcomes_of_quiet (quiet_of_unarmed unarmed)]
    exact Tally.adds_nothing i.tally
  · rw [same, outcomes_of_decides sound (decides_of_armed sound member armed)]
    exact Tally.adds_timedOut i.tally

theorem adds_onClose {i : Initiator} (sound : i.Sound) :
    Tally.Adds i.tally i.onClose.2.tally [] []
      (Event.close.outcomes i.ledger.table.entries i.clock) := by
  rw [onClose_eq sound]
  cases closed : i.isClosed with
  | true =>
      rw [sound.ledger.closed closed]
      exact Tally.adds_nothing i.tally
  | false =>
      rw [outcomes_close]
      exact Tally.adds_failedOnClose i.pendingCount i.tally

theorem adds_act {i : Initiator} (sound : i.Sound) (event : Event) :
    Tally.Adds i.tally (i.act event).tally
      ((i.act event).outbound.queued.drop i.outbound.queued.length) event.payload?.toList
      (event.outcomes i.ledger.table.entries i.clock) := by
  cases event with
  | measure draws =>
      rw [outcomes_of_quiet fun _ _ => rfl]
      exact adds_measure draws
  | frame payload =>
      rw [unsent_of_not_measure sound _ (by simp)]
      exact adds_onFrame sound payload
  | fire number =>
      rw [unsent_of_not_measure sound _ (by simp)]
      exact adds_fire sound number
  | close =>
      rw [unsent_of_not_measure sound _ (by simp)]
      exact adds_onClose sound
  | advance | dropMeasurement | takeQueued | dropOutbound =>
      rw [unsent_of_not_measure sound _ (by simp), outcomes_of_quiet fun _ _ => rfl]
      exact Tally.adds_nothing i.tally

end Initiator

namespace History

open Initiator

/-- The counters have counted what the history tells, and no request is forgotten. -/
structure Counted (h : History) (i : Initiator) : Prop where
  tally : Tally.Adds {} i.tally h.queued h.frames h.outcomes
  requests : h.requests.length = h.outcomes.length + h.unsettled.length

theorem counted_start (uploadSize timeout clock : Nat) :
    Counted { now := clock } (start uploadSize timeout clock) where
  tally := Tally.adds_nothing {}
  requests := rfl

variable {h : History} {i : Initiator}

theorem counted_note (counted : h.Counted i) (tells : h.Tells i) (sound : i.Sound)
    (event : Event) : (h.note event i (i.act event)).Counted (i.act event) := by
  constructor
  · have adds := adds_act sound event
    rw [tells.entries, tells.now] at adds
    exact counted.tally.trans adds
  · have settled := Event.length_outcomes h.unsettled h.now event
    have before := counted.requests
    simp only [note, List.length_append, List.length_map]
    omega

theorem counted_record (counted : h.Counted i) (tells : h.Tells i) (sound : i.Sound)
    (events : List Event) : (h.record i events).Counted (i.run events) := by
  induction events generalizing h i with
  | nil => exact counted
  | cons event events ih =>
      exact ih (counted_note counted tells sound event) (tells_note tells sound event)
        (sound_act sound event)

end History

namespace Initiator

/-- Modulo 2⁶⁴, every request that was made is answered, timed out, failed by the
closing or outstanding, and every frame was a reply, a violation or too short. What
went out are the requests made while somebody took payloads, all of one size. The sum
of the round trips has whole microseconds, each bounded by what a counter holds. -/
theorem counters_conserved (uploadSize timeout clock : Nat) (events : List Event) :
    let i := (start uploadSize timeout clock).run events
    let h := (start uploadSize timeout clock).history events
    let t := i.tally
    UInt64.ofNat h.requests.length =
      t.repliesReceived + t.timeouts + t.closedFailures + UInt64.ofNat i.pendingCount ∧
    UInt64.ofNat h.frames.length = t.repliesReceived + t.violations + t.framingErrors ∧
    t.requestsSent = UInt64.ofNat h.heard.length ∧
    t.bytesSent = t.requestsSent * UInt64.ofNat (uploadSize + 4) ∧
    t.bytesReceived = UInt64.ofNat (h.frames.map List.length).sum ∧
    t.repliesReceived = UInt64.ofNat h.roundTrips.length ∧
    t.roundTripMicros =
      UInt64.ofNat (h.roundTrips.map fun nanos => min (nanos / 1000) (2 ^ 64 - 1)).sum := by
  intro i h t
  have sound : i.Sound := sound_run (sound_start uploadSize timeout clock) events
  have tells : h.Tells i := tells_history uploadSize timeout clock events
  have size : i.uploadSize = uploadSize :=
    uploadSize_run (sound_start uploadSize timeout clock) events
  have counted : h.Counted i :=
    History.counted_record (History.counted_start uploadSize timeout clock)
      (History.tells_start uploadSize timeout clock) (sound_start uploadSize timeout clock) events
  have settled : h.outcomes.length + i.pendingCount = h.requests.length := by
    rw [counted.requests, pendingCount, Outstanding.count, tells.entries]
  have queued : h.queued.length = h.heard.length := by
    rw [tells.queued, List.length_map]
  have sizes : (h.queued.map List.length).sum = h.heard.length * (uploadSize + 4) := by
    rw [tells.queued, size, List.map_map]
    have same : (List.length ∘ fun request : Request => Payload.request request.id uploadSize) =
        fun _ => uploadSize + 4 := by
      funext request
      rw [Function.comp_apply, Payload.length_request, Payload.totalLength_eq]
    rw [same, List.map_const', List.sum_replicate_nat]
  have tally := counted.tally
  refine ⟨?_, ?_, ?_, ?_, ?_, ?_, ?_⟩
  · rw [tally.requests, ← settled, UInt64.ofNat_add]
    simp
  · rw [tally.frames]
    simp
  · rw [tally.requestsSent, queued]
    simp
  · rw [tally.bytesSent, tally.requestsSent, queued, sizes, UInt64.ofNat_mul]
    simp
  · rw [tally.bytesReceived]
    simp
  · rw [tally.repliesReceived]
    exact UInt64.zero_add _
  · rw [tally.roundTripMicros]
    exact UInt64.zero_add _

end Initiator

end RoundTrip
