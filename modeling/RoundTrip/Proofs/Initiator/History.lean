import Mathlib.Data.List.Forall2
import RoundTrip.Proofs.Initiator.Settling

/-!
# What has happened to an initiator

A history is written from the outside: of each event it keeps the requests that were
made by it, the requests that it settled, and the payloads that came and went. It
never looks into the table, nor at which deadlines are armed.

Main result: whatever happens, the table, the armed deadlines, the measurements that
wait and the payloads that were queued are just what the history says
(`outstanding_correspond`).
-/

namespace RoundTrip

/-- How long the round trip of an answered request took. -/
def Outcome.nanos? : Outcome → Option Nat
  | answered nanos => some nanos
  | failed _ => none

/-- The frame that was taken. -/
def Event.payload? : Event → Option Bytes
  | frame payload => some payload
  | _ => none

/-- A request that was made. -/
structure Request extends Entry where
  /-- Somebody took payloads when it was made. -/
  heard : Bool
deriving DecidableEq, Repr

structure History where
  now : Nat
  listening : Bool := true
  /-- The requests made, in order. -/
  requests : List Request := []
  /-- Those of them that no event has settled. -/
  unsettled : List Entry := []
  /-- The payloads queued, in order. -/
  queued : List Bytes := []
  /-- The frames taken, in order. -/
  frames : List Bytes := []
  /-- The outcomes of the requests that events have settled. -/
  outcomes : List Outcome := []
deriving DecidableEq, Repr

namespace History

open Initiator

/-- Write down an event that has led from one state to another. -/
def note (event : Event) (before after : Initiator) (h : History) : History where
  now := h.now + event.nanos
  listening := h.listening && event ≠ .dropOutbound
  requests := h.requests ++ (made? before after).toList.map fun entry => ⟨entry, h.listening⟩
  unsettled := h.unsettled.filter (!event.settles ·) ++ (made? before after).toList
  queued := h.queued ++ after.outbound.queued.drop before.outbound.queued.length
  frames := h.frames ++ event.payload?.toList
  outcomes := h.outcomes ++ event.outcomes h.unsettled h.now

/-- Write down a run. -/
def record (h : History) (i : Initiator) : List Event → History
  | [] => h
  | event :: events => (h.note event i (i.act event)).record (i.act event) events

/-- The requests that were made while somebody took payloads. -/
def heard (h : History) : List Request := h.requests.filter (·.heard)

/-- The round trips of the requests that were answered. -/
def roundTrips (h : History) : List Nat := h.outcomes.filterMap (·.nanos?)

end History

namespace Initiator

/-- All that happens to an initiator from its start. -/
def history (i : Initiator) (events : List Event) : History :=
  ({ now := i.clock } : History).record i events

/-! ## What goes out -/

/-- The payload of a request is queued as long as somebody takes it. -/
theorem queued_send (id : CorrelationId) (i : Initiator) :
    (i.send id).outbound.queued.drop i.outbound.queued.length =
      if i.outbound.listening then [Payload.request id i.uploadSize] else [] := by
  rw [send]
  split <;> simp

theorem unsent_of_not_measure {i : Initiator} (sound : i.Sound) (event : Event)
    (other : ∀ draws, event ≠ .measure draws) :
    (i.act event).outbound.queued.drop i.outbound.queued.length = [] := by
  rcases queued_of_not_measure sound event other with same | emptied
  · rw [same, List.drop_length]
  · rw [emptied, List.drop_nil]

/-- Nothing is queued but the payloads of requests. -/
theorem queued_act {i : Initiator} (sound : i.Sound) (event : Event) :
    (i.act event).outbound.queued.drop i.outbound.queued.length =
      if i.outbound.listening then
        (made? i (i.act event)).toList.map fun entry => Payload.request entry.id i.uploadSize
      else [] := by
  cases event with
  | measure draws =>
      rw [act]
      rcases made?_measure sound draws with ⟨failed, fault, same⟩ | ⟨id, requested, -, same⟩
      · rw [failed, same]
        simp [fail]
      · rw [requested, same]
        exact queued_send id (i.register id)
  | frame | fire | close | advance | dropMeasurement | takeQueued | dropOutbound =>
      rw [made?_eq_none sound _ (by simp), unsent_of_not_measure sound _ (by simp)]
      simp

/-! ## What is written down -/

/-- The measurement of a request that was made has the number and the id of its
entry. -/
theorem getElem?_of_made {before after : Initiator} {entry : Entry}
    (made : made? before after = some entry) :
    entry.slot = before.measurements.length ∧
      ∃ m, after.measurements[entry.slot]? = some m ∧ m.id = some entry.id := by
  obtain ⟨id, named, rfl⟩ := Option.map_eq_some_iff.mp made
  obtain ⟨m, present, same⟩ := Option.bind_eq_some_iff.mp named
  exact ⟨rfl, m, present, same⟩

/-- A measurement keeps its id. -/
theorem id_act {i : Initiator} (sound : i.Sound) {slot : Nat} {m : Measurement}
    (present : i.measurements[slot]? = some m) (event : Event) :
    ∃ later, (i.act event).measurements[slot]? = some later ∧ later.id = m.id := by
  -- With or without an entry, the event changes how far it has come and nothing else.
  by_cases owned : ∃ entry ∈ i.ledger.table.entries, entry.slot = slot
  · obtain ⟨entry, member, rfl⟩ := owned
    refine ⟨_, getElem?_act_of_entry sound member present event, ?_⟩
    rw [measured]
    split
    · rfl
    · split <;> rfl
  · have unowned : ∀ entry ∈ i.ledger.table.entries, entry.slot ≠ slot :=
      fun entry member same => owned ⟨entry, member, same⟩
    refine ⟨_, getElem?_act_of_no_entry sound unowned present event, ?_⟩
    split <;> rfl

end Initiator

namespace History

open Initiator

/-- An initiator is in the state that the history tells of. -/
structure Tells (h : History) (i : Initiator) : Prop where
  now : i.clock = h.now
  listening : i.outbound.listening = h.listening
  entries : i.ledger.table.entries = h.unsettled
  kept : h.unsettled.Sublist (h.requests.map (·.toEntry))
  slots : (h.requests.map (·.slot)).Nodup
  named : ∀ request ∈ h.requests,
    ∃ m, i.measurements[request.slot]? = some m ∧ m.id = some request.id
  queued : h.queued = h.heard.map fun request => Payload.request request.id i.uploadSize

theorem tells_start (uploadSize timeout clock : Nat) :
    Tells { now := clock } (start uploadSize timeout clock) where
  now := rfl
  listening := rfl
  entries := rfl
  kept := List.Sublist.refl []
  slots := List.nodup_nil
  named _ member := absurd member List.not_mem_nil
  queued := rfl

variable {h : History} {i : Initiator}

/-- A request is made with a number that no earlier request has. -/
theorem slots_note (tells : h.Tells i) (event : Event) :
    ((h.note event i (i.act event)).requests.map (·.slot)).Nodup := by
  rw [note, List.map_append, List.nodup_append]
  refine ⟨tells.slots, ?_, ?_⟩
  · cases made? i (i.act event) <;> simp
  · intro slot old other new same
    obtain ⟨request, member, rfl⟩ := List.mem_map.mp old
    obtain ⟨m, present, -⟩ := tells.named request member
    -- The measurement of the old request is there before the new one is added.
    have before := (List.getElem?_eq_some_iff.mp present).1
    simp only [List.map_map, List.mem_map, Option.mem_toList, Function.comp_apply] at new
    obtain ⟨entry, made, rfl⟩ := new
    rw [same, (getElem?_of_made made).1] at before
    exact Nat.lt_irrefl _ before

theorem named_note (tells : h.Tells i) (sound : i.Sound) (event : Event) :
    ∀ request ∈ (h.note event i (i.act event)).requests,
      ∃ m, (i.act event).measurements[request.slot]? = some m ∧ m.id = some request.id := by
  intro request member
  rcases List.mem_append.mp member with old | new
  · obtain ⟨m, present, named⟩ := tells.named request old
    obtain ⟨later, stays, same⟩ := id_act sound present event
    exact ⟨later, stays, same.trans named⟩
  · simp only [List.mem_map, Option.mem_toList] at new
    obtain ⟨entry, made, rfl⟩ := new
    exact (getElem?_of_made made).2

theorem queued_note (tells : h.Tells i) (sound : i.Sound) (event : Event) :
    (h.note event i (i.act event)).queued =
      (h.note event i (i.act event)).heard.map fun request =>
        Payload.request request.id i.uploadSize := by
  simp only [note, heard, List.filter_append, List.map_append]
  rw [← heard, ← tells.queued, queued_act sound event, tells.listening]
  cases h.listening <;> cases made? i (i.act event) <;> simp

theorem tells_note (tells : h.Tells i) (sound : i.Sound) (event : Event) :
    (h.note event i (i.act event)).Tells (i.act event) := by
  obtain ⟨size, clock, listening⟩ := act_frame sound event
  constructor
  · rw [clock, tells.now]
    rfl
  · rw [listening, tells.listening]
    rfl
  · rw [entries_act sound event, tells.entries]
    rfl
  · rw [note, List.map_append, List.map_map]
    apply List.Sublist.append (List.filter_sublist.trans tells.kept)
    cases made? i (i.act event) <;> simp
  · exact slots_note tells event
  · exact named_note tells sound event
  · rw [size]
    exact queued_note tells sound event

theorem tells_record (tells : h.Tells i) (sound : i.Sound) (events : List Event) :
    (h.record i events).Tells (i.run events) := by
  induction events generalizing h i with
  | nil => exact tells
  | cons event events ih => exact ih (tells_note tells sound event) (sound_act sound event)

/-- As long as its caller is there, a measurement waits just if its request is not
settled. -/
theorem pending_iff (tells : h.Tells i) (sound : i.Sound) {request : Request}
    (member : request ∈ h.requests) {m : Measurement}
    (present : i.measurements[request.slot]? = some m) (held : m.held = true) :
    m.progress = .pending ↔ request.toEntry ∈ h.unsettled := by
  constructor
  · intro pending
    obtain ⟨entry, outstanding, same⟩ := sound.ledger.waiting request.slot m present pending
    rw [tells.entries] at outstanding
    obtain ⟨other, otherMember, rfl⟩ := List.mem_map.mp (tells.kept.subset outstanding)
    rwa [List.inj_on_of_nodup_map tells.slots otherMember member same] at outstanding
  · intro unsettled
    rw [← tells.entries] at unsettled
    obtain ⟨waiting, there, -, progress⟩ := sound.ledger.awaited request.toEntry unsettled
    obtain rfl := Option.some.inj (present.symm.trans there)
    rwa [held] at progress

end History

namespace Initiator

theorem tells_history (uploadSize timeout clock : Nat) (events : List Event) :
    ((start uploadSize timeout clock).history events).Tells
      ((start uploadSize timeout clock).run events) :=
  History.tells_record (History.tells_start uploadSize timeout clock)
    (sound_start uploadSize timeout clock) events

/-- The table holds the requests that were made and that no event has settled, under
different ids. Each of them has one armed deadline, for its own id, and no other
deadline is armed. Their measurements are those that wait, where the caller has not
dropped them. The requests made while somebody took payloads have queued one payload
each, in the same order, and it begins with the id. -/
theorem outstanding_correspond (uploadSize timeout clock : Nat) (events : List Event) :
    let i := (start uploadSize timeout clock).run events
    let h := (start uploadSize timeout clock).history events
    (i.ledger.table.entries.map (·.id)).Nodup ∧
    i.ledger.table.entries = h.unsettled ∧
    i.pendingCount = h.unsettled.length ∧
    i.deadlines.armedFor = h.unsettled.map (fun entry => (entry.id, entry.deadline)) ∧
    (i.deadlines.armedFor.map (·.2)).Nodup ∧
    h.unsettled.Sublist (h.requests.map (·.toEntry)) ∧
    (h.requests.map (·.slot)).Nodup ∧
    (∀ request ∈ h.requests, ∃ m, i.measurements[request.slot]? = some m ∧
      m.id = some request.id ∧
      (m.held = true → (m.progress = .pending ↔ request.toEntry ∈ h.unsettled))) ∧
    List.Forall₂ (fun payload request =>
      payload.length = uploadSize + 4 ∧ Word.littleEndian request.id <+: payload)
      h.queued h.heard := by
  intro i h
  have sound : i.Sound := sound_run (sound_start uploadSize timeout clock) events
  have tells : h.Tells i := tells_history uploadSize timeout clock events
  have size : i.uploadSize = uploadSize :=
    uploadSize_run (sound_start uploadSize timeout clock) events
  refine ⟨sound.ledger.distinct, tells.entries, congrArg List.length tells.entries, ?_,
    Deadlines.armedFor_nodup sound.numbered, tells.kept, tells.slots, ?_, ?_⟩
  · rw [sound.covered, tells.entries]
  · intro request member
    obtain ⟨m, present, named⟩ := tells.named request member
    exact ⟨m, present, named, History.pending_iff tells sound member present⟩
  · rw [tells.queued, size, List.forall₂_map_left_iff, List.forall₂_same]
    intro request _
    refine ⟨?_, List.prefix_append _ _⟩
    rw [Payload.length_request, Payload.totalLength_eq]

-- The first of two requests is answered; the second is made when nobody takes payloads.
example :
    let events : List Event := [.measure [7], .dropOutbound, .advance 3, .measure [7, 8],
      .frame [7, 0, 0, 0]]
    ((start 4 5 100).history events).unsettled = [⟨8, 103, 1, some 1⟩] ∧
      ((start 4 5 100).history events).heard.map (·.id) = [7] ∧
      ((start 4 5 100).history events).outcomes = [.answered 3] := by
  decide

end Initiator

end RoundTrip
