import RoundTrip.Proofs.Initiator.Closing
import RoundTrip.Proofs.Initiator.Polling
import RoundTrip.Proofs.Link.Peers

/-!
# An initiator among callers

Those who work with an initiator on a stream do not wait for each other, and a caller makes
a request in two steps that others may come between (`Initiator.move`). Whatever they do, an
initiator stays sound (`sound_moves`), only closing closes it (`isClosed_moves`), what is
settled stays settled (`progress?_moves_of_settled`), and each frame without an id is counted
(`framingErrors_moves`). Once it is closed, no measurement waits (`not_pending_of_closed`).
-/

namespace RoundTrip

namespace Initiator

/-- What is done with an initiator on a stream. -/
inductive Motion
  | event (event : Event)
  /-- A caller enters a request, with ids as they are drawn. -/
  | enter (draws : List CorrelationId)
  /-- The caller queues it. -/
  | queue (id : CorrelationId)
  /-- Time passes for the deadlines. -/
  | advanceDeadlines (nanos : Nat)
  /-- The delays begin that have not begun. -/
  | beginDelays
deriving DecidableEq, Repr

/-- The frame that is taken. -/
def Motion.frame? : Motion → Option Bytes
  | .event (.frame payload) => some payload
  | _ => none

def move (i : Initiator) : Motion → Initiator
  | .event event => i.act event
  | .enter draws => (i.enter? draws).2
  | .queue id => i.send id
  | .advanceDeadlines nanos => i.advanceDeadlines nanos
  | .beginDelays => i.beginDelays

def moves (i : Initiator) (motions : List Motion) : Initiator := motions.foldl move i

theorem moves_append (i : Initiator) (first later : List Motion) :
    i.moves (first ++ later) = (i.moves first).moves later :=
  List.foldl_append

variable {i : Initiator}

/-! ## Entering -/

theorem enter?_eq (draws : List CorrelationId) (i : Initiator) :
    (∃ fault, (i.enter? draws).2 = i.fail fault) ∨
      ∃ id, i.ledger.table.refusal? id = none ∧ (i.enter? draws).2 = i.register id := by
  rw [enter?]
  split
  · exact .inl ⟨.closed, rfl⟩
  · cases found : i.freeId? draws with
    | none => exact .inl ⟨exhausted, rfl⟩
    | some id => exact .inr ⟨id, by simpa using List.find?_some found, rfl⟩

/-- What is entered does not wait for its payload to be queued. -/
theorem ledger_enter? (draws : List CorrelationId) (i : Initiator) :
    (i.enter? draws).2.ledger = (i.measure draws).ledger := by
  rw [measure_eq_enter?]
  cases i.enter? draws with
  | mk id entered =>
      cases id with
      | none => rfl
      | some id => exact (ledger_send id entered).symm

/-! ## What motions keep -/

theorem sound_move (sound : i.Sound) (motion : Motion) : (i.move motion).Sound := by
  cases motion with
  | event event => exact sound_act sound event
  | enter draws =>
      rcases enter?_eq draws i with ⟨fault, same⟩ | ⟨id, free, same⟩
      · rw [move, same]
        exact sound_fail sound fault
      · rw [move, same]
        exact sound_register sound free
  | queue id => exact sound_send sound id
  | advanceDeadlines nanos => exact sound_advanceDeadlines sound nanos
  | beginDelays => exact sound_beginDelays sound

theorem sound_moves (sound : i.Sound) (motions : List Motion) : (i.moves motions).Sound := by
  induction motions generalizing i with
  | nil => exact sound
  | cons motion motions ih => exact ih (sound_move sound motion)

theorem isClosed_move (sound : i.Sound) (motion : Motion) :
    (i.move motion).isClosed = (i.isClosed || motion = .event .close) := by
  cases motion with
  | event event => simpa [move] using isClosed_act sound event
  | enter draws =>
      have closed := isClosed_act sound (.measure draws)
      rw [act, isClosed, ← ledger_enter?] at closed
      simpa [move, isClosed] using closed
  | queue id =>
      rw [move, isClosed, ledger_send]
      simp [isClosed]
  | advanceDeadlines | beginDelays => simp [move, isClosed, advanceDeadlines, beginDelays]

theorem isClosed_moves (sound : i.Sound) (motions : List Motion) :
    (i.moves motions).isClosed = (i.isClosed || .event .close ∈ motions) := by
  induction motions generalizing i with
  | nil => simp [moves]
  | cons motion motions ih =>
      show ((i.move motion).moves motions).isClosed = _
      rw [ih (sound_move sound motion), isClosed_move sound motion]
      by_cases close : motion = .event .close <;> simp [close, eq_comm]

/-- An outcome is there to stay. -/
theorem progress?_move_of_settled (sound : i.Sound) {slot : Nat} {outcome : Outcome}
    (settled : i.progress? slot = some (.settled outcome)) (motion : Motion) :
    (i.move motion).progress? slot = some (.settled outcome) := by
  cases motion with
  | event event => exact progress?_act_of_settled sound settled event
  | enter draws =>
      have stays := progress?_act_of_settled sound settled (.measure draws)
      rwa [act, progress?, measurements, ← ledger_enter?] at stays
  | queue id =>
      rw [move, progress?, measurements, ledger_send]
      exact settled
  | advanceDeadlines | beginDelays => exact settled

theorem progress?_moves_of_settled (sound : i.Sound) {slot : Nat} {outcome : Outcome}
    (settled : i.progress? slot = some (.settled outcome)) (motions : List Motion) :
    (i.moves motions).progress? slot = some (.settled outcome) := by
  induction motions generalizing i with
  | nil => exact settled
  | cons motion motions ih =>
      exact ih (sound_move sound motion) (progress?_move_of_settled sound settled motion)

/-- Every measurement that waits has an entry, and closing leaves none. -/
theorem not_pending_of_closed (sound : i.Sound) (closed : i.isClosed = true) (slot : Nat) :
    i.progress? slot ≠ some .pending := by
  intro pending
  obtain ⟨m, present, waits⟩ := Option.map_eq_some_iff.mp pending
  obtain ⟨entry, member, -⟩ := sound.ledger.waiting slot m present waits
  rw [(ended_of_closed sound closed).empty] at member
  exact absurd member List.not_mem_nil

/-! ## Frames without an id -/

/-- Frames that are too short to begin with an id. -/
def shortFrames (frames : List Bytes) : List Bytes :=
  frames.filter (·.length < CorrelationId.width)

theorem shortFrames_append (first later : List Bytes) :
    shortFrames (first ++ later) = shortFrames first ++ shortFrames later :=
  List.filter_append ..

theorem framingErrors_send (id : CorrelationId) (i : Initiator) :
    (i.send id).tally.framingErrors = i.tally.framingErrors := by
  rw [send]
  split <;> rfl

theorem framingErrors_onFrame (sound : i.Sound) (payload : Bytes) :
    (i.onFrame payload).2.tally.framingErrors =
      i.tally.framingErrors + UInt64.ofNat (shortFrames [payload]).length := by
  have long {id : CorrelationId} (named : Word.littleEndian id <+: payload) :
      shortFrames [payload] = [] := by
    have length := named.length_le
    rw [Word.length_littleEndian] at length
    simp [shortFrames, length]
  rcases onFrame_cases sound payload with ⟨short, same⟩ | ⟨_, named, -, same⟩ | ⟨_, -, named, same⟩
  · rw [same]
    simp [shortFrames, short, Tally.framingError, Tally.frameReceived]
  · rw [same, long named]
    exact (UInt64.add_zero _).symm
  · rw [same, long named]
    exact (UInt64.add_zero _).symm

theorem framingErrors_act (sound : i.Sound) (event : Event) :
    (i.act event).tally.framingErrors = i.tally.framingErrors +
      UInt64.ofNat (shortFrames (Motion.event event).frame?.toList).length := by
  cases event with
  | frame payload => exact framingErrors_onFrame sound payload
  | measure draws =>
      rcases measure_cases draws i with ⟨fault, same⟩ | ⟨id, -, same⟩ <;> rw [act, same]
      · exact (UInt64.add_zero _).symm
      · exact (framingErrors_send id _).trans (UInt64.add_zero _).symm
  | fire number =>
      rcases fire_cases sound number with ⟨-, same⟩ | ⟨_, -, -, same⟩ <;> rw [act, same] <;>
        exact (UInt64.add_zero _).symm
  | close =>
      rw [act, onClose_eq sound]
      split <;> exact (UInt64.add_zero _).symm
  | advance | dropMeasurement | takeQueued | dropOutbound => exact (UInt64.add_zero _).symm

theorem framingErrors_move (sound : i.Sound) (motion : Motion) :
    (i.move motion).tally.framingErrors =
      i.tally.framingErrors + UInt64.ofNat (shortFrames motion.frame?.toList).length := by
  cases motion with
  | event event => exact framingErrors_act sound event
  | enter draws =>
      rcases enter?_eq draws i with ⟨fault, same⟩ | ⟨id, -, same⟩ <;> rw [move, same] <;>
        exact (UInt64.add_zero _).symm
  | queue id => exact (framingErrors_send id i).trans (UInt64.add_zero _).symm
  | advanceDeadlines | beginDelays => exact (UInt64.add_zero _).symm

theorem framingErrors_moves (sound : i.Sound) (motions : List Motion) :
    (i.moves motions).tally.framingErrors = i.tally.framingErrors +
      UInt64.ofNat (shortFrames (motions.filterMap Motion.frame?)).length := by
  induction motions generalizing i with
  | nil => exact (UInt64.add_zero _).symm
  | cons motion motions ih =>
      have frames : (motion :: motions).filterMap Motion.frame? =
          motion.frame?.toList ++ motions.filterMap Motion.frame? := by
        cases frame : motion.frame? <;> simp [frame]
      rw [frames, shortFrames_append, List.length_append, UInt64.ofNat_add, ← UInt64.add_assoc,
        ← framingErrors_move sound motion]
      exact ih (sound_move sound motion)

end Initiator

end RoundTrip
