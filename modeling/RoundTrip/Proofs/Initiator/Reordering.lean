import RoundTrip.Proofs.Link.Asking.Motions

/-!
# Frames in another order

A frame has no id, or its id is that of no entry, or it finds one. What it does to an initiator
depends on this and on its length alone (`onFrame_eq`). Two frames do the same in either order.
If both find one entry, the first of them settles it and the second is a violation, and nothing
tells afterwards which of them was the first (`take_entry_twice`).

Main result: frames that are taken at one time may come in any order
(`order_of_frames_is_lost`).
-/

namespace RoundTrip

namespace Tally

/-- All that either of them has counted. -/
def plus (s t : Tally) : Tally where
  requestsSent := s.requestsSent + t.requestsSent
  repliesReceived := s.repliesReceived + t.repliesReceived
  repliesSent := s.repliesSent + t.repliesSent
  timeouts := s.timeouts + t.timeouts
  closedFailures := s.closedFailures + t.closedFailures
  violations := s.violations + t.violations
  framingErrors := s.framingErrors + t.framingErrors
  bytesSent := s.bytesSent + t.bytesSent
  bytesReceived := s.bytesReceived + t.bytesReceived
  roundTripMicros := s.roundTripMicros + t.roundTripMicros

theorem plus_comm (s t : Tally) : s.plus t = t.plus s := by
  simp only [plus, UInt64.add_comm]

theorem plus_assoc (s t u : Tally) : (s.plus t).plus u = s.plus (t.plus u) := by
  simp only [plus, UInt64.add_assoc]

instance : Std.Commutative plus := ⟨plus_comm⟩

instance : Std.Associative plus := ⟨plus_assoc⟩

/-! Recording adds what it records to a tally of nothing. -/

theorem frameReceived_eq (size : Nat) (t : Tally) :
    t.frameReceived size = t.plus (frameReceived size {}) := by
  simp [frameReceived, plus]

theorem framingError_eq (t : Tally) : t.framingError = t.plus (framingError {}) := by
  simp [framingError, plus]

theorem violation_eq (t : Tally) : t.violation = t.plus (violation {}) := by
  simp [violation, plus]

theorem replyMatched_eq (nanos : Nat) (t : Tally) :
    t.replyMatched nanos = t.plus (replyMatched nanos {}) := by
  simp [replyMatched, plus]

end Tally

theorem Deadlines.cancel?_comm {α : Type} (first second : Option Nat) (ds : Deadlines α) :
    (ds.cancel? first).cancel? second = (ds.cancel? second).cancel? first := by
  cases first <;> cases second <;> simp [cancel?, cancel]
  intro d _
  split <;> split <;> simp_all

/-- Entries of different measurements may be struck out in either order. -/
theorem Ledger.strike_comm {l : Ledger} {e other : Entry} (apart : e.slot ≠ other.slot)
    (outcome late : Outcome) :
    (l.strike e outcome).strike other late = (l.strike other late).strike e outcome := by
  simp only [strike, Outstanding.erase, List.filter_comm, List.modify_modify_ne _ _ _ apart]

namespace Initiator

/-- What a frame finds. -/
inductive Finding
  | noId
  | noEntry
  | entry (entry : Entry)
deriving DecidableEq, Repr

def finding (payload : Bytes) (i : Initiator) : Finding :=
  match CorrelationId.read payload with
  | .error _ => .noId
  | .ok id => (i.ledger.table.find? id).elim .noEntry .entry

namespace Finding

/-- What is counted for a frame at some time, its length aside. -/
def counts (now : Nat) : Finding → Tally
  | noId => Tally.framingError {}
  | noEntry => Tally.violation {}
  | entry e => Tally.replyMatched (Clock.elapsed e.sentAt now) {}

def strike (now : Nat) (l : Ledger) : Finding → Ledger
  | noId | noEntry => l
  | entry e => l.strike e (.answered (Clock.elapsed e.sentAt now))

def cancel (ds : Deadlines CorrelationId) : Finding → Deadlines CorrelationId
  | noId | noEntry => ds
  | entry e => ds.cancel? e.deadline

/-- Not the same entry, and not two entries of one measurement. -/
def Apart : Finding → Finding → Prop
  | entry e, entry other => e.slot ≠ other.slot
  | _, _ => True

end Finding

/-- What a frame of this length does that finds this. -/
def take (size : Nat) (found : Finding) (i : Initiator) : Initiator :=
  { i with
    ledger := found.strike i.clock i.ledger
    deadlines := found.cancel i.deadlines
    tally := (i.tally.frameReceived size).plus (found.counts i.clock) }

variable {i : Initiator}

theorem onFrame_eq (payload : Bytes) (i : Initiator) :
    (i.onFrame payload).2 = i.take payload.length (i.finding payload) := by
  rw [onFrame, finding]
  cases CorrelationId.read payload with
  | error =>
      simp only [Tally.framingError_eq (Tally.frameReceived _ _)]
      rfl
  | ok id =>
      simp only [Ledger.resolve?_eq]
      cases i.ledger.table.find? id with
      | none =>
        simp only [Option.map_none, Tally.violation_eq (Tally.frameReceived _ _)]
        rfl
      | some e =>
        simp only [Option.map_some, Tally.replyMatched_eq _ (Tally.frameReceived _ _)]
        rfl

/-- Of two frames, lengths and counts add up in any order. -/
theorem tally_take_take (m n : Nat) (x y : Finding) (i : Initiator) :
    ((i.take m x).take n y).tally =
      i.tally.plus (.plus (.plus (Tally.frameReceived m {}) (Tally.frameReceived n {}))
        (.plus (x.counts i.clock) (y.counts i.clock))) := by
  simp only [take, Tally.frameReceived_eq _ (Tally.plus _ _), Tally.frameReceived_eq _ i.tally]
  ac_rfl

theorem Finding.strike_comm {x y : Finding} (apart : x.Apart y) (now : Nat) (l : Ledger) :
    y.strike now (x.strike now l) = x.strike now (y.strike now l) := by
  cases x with
  | noId | noEntry => rfl
  | entry e =>
      cases y with
      | noId | noEntry => rfl
      | entry other => exact Ledger.strike_comm apart _ _

theorem Finding.cancel_comm (x y : Finding) (ds : Deadlines CorrelationId) :
    y.cancel (x.cancel ds) = x.cancel (y.cancel ds) := by
  cases x with
  | noId | noEntry => rfl
  | entry e =>
      cases y with
      | noId | noEntry => rfl
      | entry other => exact Deadlines.cancel?_comm e.deadline other.deadline ds

theorem take_comm (m n : Nat) {x y : Finding} (apart : x.Apart y) :
    (i.take m x).take n y = (i.take n y).take m x := by
  have tally : ((i.take m x).take n y).tally = ((i.take n y).take m x).tally := by
    rw [tally_take_take, tally_take_take]
    ac_rfl
  simp only [take] at tally ⊢
  rw [Finding.strike_comm apart, Finding.cancel_comm x y, tally]

/-- Whichever of two frames has settled the entry, the other one finds none. -/
theorem take_entry_twice (m n : Nat) (e : Entry) (i : Initiator) :
    (i.take m (.entry e)).take n .noEntry = (i.take n (.entry e)).take m .noEntry := by
  have tally : ((i.take m (.entry e)).take n .noEntry).tally =
      ((i.take n (.entry e)).take m .noEntry).tally := by
    rw [tally_take_take, tally_take_take]
    ac_rfl
  simp only [take] at tally ⊢
  rw [tally]

/-! ## What is found after another frame -/

theorem finding_eq_entry {payload : Bytes} {e : Entry} (found : i.finding payload = .entry e) :
    CorrelationId.read payload = .ok e.id ∧ i.ledger.table.find? e.id = some e := by
  rw [finding] at found
  cases read : CorrelationId.read payload with
  | error fault => simp [read] at found
  | ok id =>
      cases present : i.ledger.table.find? id with
      | none => simp [read, present] at found
      | some other =>
          simp only [read, present, Option.elim, Finding.entry.injEq] at found
          subst found
          rw [(Outstanding.find?_some present).2]
          exact ⟨rfl, present⟩

theorem finding_take_entry {payload : Bytes} {e : Entry} {id : CorrelationId}
    (read : CorrelationId.read payload = .ok id) (size : Nat) :
    (i.take size (.entry e)).finding payload =
      if id = e.id then .noEntry else i.finding payload := by
  simp only [finding, read, take, Finding.strike, Ledger.strike, Outstanding.find?_erase]
  split <;> rfl

/-- A frame that does not find the same entry finds what it would have found before. -/
theorem finding_take {first later : Bytes}
    (differ : ∀ e, i.finding first = .entry e → i.finding later ≠ .entry e) (size : Nat) :
    (i.take size (i.finding first)).finding later = i.finding later := by
  cases found : i.finding first with
  | noId | noEntry => rfl
  | entry e =>
      obtain ⟨-, present⟩ := finding_eq_entry found
      cases read : CorrelationId.read later with
      | error fault => simp only [finding, read]
      | ok id =>
          rw [finding_take_entry read, if_neg]
          rintro rfl
          exact differ e found (by simp [finding, read, present])

theorem apart_of_differ (sound : i.Sound) {first later : Bytes}
    (differ : ∀ e, i.finding first = .entry e → i.finding later ≠ .entry e) :
    (i.finding first).Apart (i.finding later) := by
  cases found : i.finding first with
  | noId | noEntry => trivial
  | entry e =>
      cases also : i.finding later with
      | noId | noEntry => trivial
      | entry other =>
          obtain ⟨-, present⟩ := finding_eq_entry found
          obtain ⟨-, there⟩ := finding_eq_entry also
          refine sound.ledger.slot_ne (Outstanding.find?_some there).1
            (Outstanding.find?_some present).1 ?_
          intro same
          rw [same, there] at present
          obtain rfl := Option.some.inj present
          exact differ other found also

theorem onFrame_comm (sound : i.Sound) (first later : Bytes) :
    ((i.onFrame first).2.onFrame later).2 = ((i.onFrame later).2.onFrame first).2 := by
  simp only [onFrame_eq]
  -- Two frames disturb each other only if they find one and the same entry.
  by_cases one : ∃ e, i.finding first = .entry e ∧ i.finding later = .entry e
  · obtain ⟨e, found, also⟩ := one
    obtain ⟨read, -⟩ := finding_eq_entry found
    obtain ⟨alsoRead, -⟩ := finding_eq_entry also
    rw [found, also, finding_take_entry read, finding_take_entry alsoRead,
      if_pos rfl, if_pos rfl]
    exact take_entry_twice first.length later.length e i
  · have differ : ∀ e, i.finding first = .entry e → i.finding later ≠ .entry e :=
      fun e found also => one ⟨e, found, also⟩
    rw [finding_take differ, finding_take fun e also found => one ⟨e, found, also⟩]
    exact take_comm first.length later.length (apart_of_differ sound differ)

/-! ## Any number of frames -/

theorem run_frames_perm (sound : i.Sound) {payloads others : List Bytes}
    (same : payloads.Perm others) :
    i.run (payloads.map .frame) = i.run (others.map .frame) := by
  -- Each frame leaves the initiator sound, so two of them can be exchanged wherever they are.
  induction same generalizing i with
  | nil => rfl
  | cons payload _ ih => exact ih (sound_onFrame sound payload)
  | swap first later rest =>
      show ((i.onFrame later).2.onFrame first).2.run _ = ((i.onFrame first).2.onFrame later).2.run _
      rw [onFrame_comm sound later first]
  | trans _ _ first later => exact (first sound).trans (later sound)

/-- Whatever has been done with an initiator, closed or not: frames that are taken at one time,
with ids or without, known, unknown or repeated, lead to the same initiator in any order. It has
the same table, the same results of all measurements, the same deadlines, cancelled or not, and
the same counters. -/
theorem order_of_frames_is_lost (uploadSize timeout clock : Nat) (motions : List Motion)
    {payloads others : List Bytes} (same : payloads.Perm others) :
    let i := (start uploadSize timeout clock).moves motions
    i.run (payloads.map .frame) = i.run (others.map .frame) :=
  run_frames_perm (sound_moves (sound_start uploadSize timeout clock) motions) same

/-- Of two replies to one request, one long and one short, either may be the first. -/
theorem order_of_frames_is_lost_twice :
    let i := (start 4 5 100).moves
      [.event (.measure [7]), .enter [8], .beginDelays, .event (.advance 30), .queue 8]
    let frames : List Bytes := [[7, 0, 0, 0], [1, 2], [9, 0, 0, 0], [7, 0, 0, 0, 5], [8, 0, 0, 0]]
    frames.Perm frames.reverse ∧
      i.run (frames.map .frame) = i.run (frames.reverse.map .frame) ∧
      (i.run (frames.map .frame)).tally.violations = 2 := by
  intro i frames
  have same : frames.Perm frames.reverse := frames.reverse_perm.symm
  exact ⟨same, order_of_frames_is_lost 4 5 100 _ same, by decide⟩

end Initiator

end RoundTrip
