import Mathlib.Algebra.Ring.Nat
import RoundTrip.Initiator
import RoundTrip.Proofs.Deadlines
import RoundTrip.Proofs.Ledger

/-!
# What can happen to an initiator

Events come in any order and any number (`Initiator.run`). What each of them can do
is said once, by cases on what is outstanding (`measure_cases`, `onFrame_cases`,
`fire_cases`, `onClose_eq`); all that follows is read off these. An initiator is
sound when its ledger is, every entry has its own armed deadline, and the deadlines
are shut down just if the table is closed. Every event keeps it sound (`sound_act`).
-/

namespace RoundTrip

inductive Event
  /-- A request is made, with ids as they are drawn. -/
  | measure (draws : List CorrelationId)
  | frame (payload : Bytes)
  /-- A deadline is run, if it is armed. -/
  | fire (number : Nat)
  | close
  /-- Time passes. -/
  | advance (nanos : Nat)
  /-- The caller drops a measurement. -/
  | dropMeasurement (slot : Nat)
  /-- The payloads that are queued are taken. -/
  | takeQueued
  /-- Nobody takes payloads any more. -/
  | dropOutbound
deriving DecidableEq, Repr

/-- The time that passes. -/
def Event.nanos : Event → Nat
  | advance nanos => nanos
  | _ => 0

/-- The time that passes while events happen. -/
def elapsed (events : List Event) : Nat := (events.map (·.nanos)).sum

namespace Initiator

/-- An initiator to which nothing has happened. -/
def start (uploadSize timeout clock : Nat) : Initiator := { uploadSize, timeout, clock }

def act (i : Initiator) : Event → Initiator
  | .measure draws => i.measure draws
  | .frame payload => (i.onFrame payload).2
  | .fire number => (i.fire number).2
  | .close => i.onClose.2
  | .advance nanos => i.advanceClock nanos
  | .dropMeasurement slot => i.dropMeasurement slot
  | .takeQueued => i.takeQueued.2
  | .dropOutbound => i.dropOutbound

def run (i : Initiator) (events : List Event) : Initiator := events.foldl act i

theorem run_append (i : Initiator) (first later : List Event) :
    i.run (first ++ later) = (i.run first).run later :=
  List.foldl_append

/-- One entry for each measurement that waits and for each deadline that is armed. -/
structure Sound (i : Initiator) : Prop where
  ledger : i.ledger.Sound
  numbered : i.deadlines.Numbered
  covered : i.deadlines.armedFor = i.ledger.table.entries.map fun entry => (entry.id, entry.deadline)
  shutdowns : i.deadlines.shutdowns = if i.isClosed then 1 else 0

namespace Sound

variable {i : Initiator} (sound : i.Sound) {entry : Entry}

include sound

theorem isShutDown : i.deadlines.isShutDown = i.isClosed := by
  rw [Deadlines.isShutDown, sound.shutdowns]
  cases i.isClosed <;> rfl

theorem armed (member : entry ∈ i.ledger.table.entries) :
    (entry.id, entry.deadline) ∈ i.deadlines.armedFor := by
  rw [sound.covered]
  exact List.mem_map_of_mem member

theorem entry_of_armed {id : CorrelationId} {deadline : Option Nat}
    (armed : (id, deadline) ∈ i.deadlines.armedFor) :
    ∃ entry ∈ i.ledger.table.entries, entry.id = id ∧ entry.deadline = deadline := by
  rw [sound.covered] at armed
  obtain ⟨entry, member, same⟩ := List.mem_map.mp armed
  simp only [Prod.mk.injEq] at same
  exact ⟨entry, member, same⟩

/-- Entries with different ids have different deadlines. -/
theorem deadline_eq_iff (member : entry ∈ i.ledger.table.entries) {other : Entry}
    (otherMember : other ∈ i.ledger.table.entries) :
    other.deadline = entry.deadline ↔ other.id = entry.id := by
  constructor
  · intro same
    have one := List.inj_on_of_nodup_map (Deadlines.armedFor_nodup sound.numbered)
      (sound.armed otherMember) (sound.armed member) same
    exact congrArg Prod.fst one
  · intro same
    rw [List.inj_on_of_nodup_map sound.ledger.distinct otherMember member same]

/-- To leave out the deadline of an entry is to leave out the entry. -/
theorem armed_of_erase (member : entry ∈ i.ledger.table.entries) :
    i.deadlines.armedFor.filter (·.2 ≠ entry.deadline) =
      (i.ledger.table.erase entry.id).entries.map fun entry => (entry.id, entry.deadline) := by
  rw [sound.covered, List.filter_map, Outstanding.erase]
  congr 1
  apply List.filter_congr
  intro other otherMember
  have same := sound.deadline_eq_iff member otherMember
  simp only [Function.comp_apply, ne_eq, decide_not, same]

end Sound

/-! ## What an event can do -/

/-- The entry of a request that is made now. -/
def entryNow (id : CorrelationId) (i : Initiator) : Entry where
  id
  sentAt := i.clock
  slot := i.measurements.length
  deadline := some i.deadlines.scheduled

@[simp] theorem ledger_send (id : CorrelationId) (i : Initiator) : (i.send id).ledger = i.ledger := by
  rw [send]
  split <;> rfl

@[simp] theorem deadlines_send (id : CorrelationId) (i : Initiator) :
    (i.send id).deadlines = i.deadlines := by
  rw [send]
  split <;> rfl

theorem register_eq {i : Initiator} (up : i.deadlines.isShutDown = false) (id : CorrelationId) :
    i.register id =
      { i with
        deadlines := (i.deadlines.schedule i.timeout id).2
        ledger := i.ledger.enter id i.clock (some i.deadlines.scheduled) } := by
  rw [register, ← (Deadlines.armed_schedule up i.timeout id).1]

theorem ledger_register {i : Initiator} (sound : i.Sound) {id : CorrelationId}
    (free : i.ledger.table.refusal? id = none) :
    (i.register id).ledger = i.ledger.enter id i.clock (some i.deadlines.scheduled) := by
  have isOpen := (Outstanding.refusal?_eq_none_iff.mp free).1
  rw [register_eq (sound.isShutDown.trans isOpen)]

/-- A measurement fails at once, or a request is made with an id that is not in
use. -/
theorem measure_cases (draws : List CorrelationId) (i : Initiator) :
    (∃ fault, i.measure draws = i.fail fault) ∨
      ∃ id, i.ledger.table.refusal? id = none ∧ i.measure draws = (i.register id).send id := by
  rw [measure]
  split
  · exact .inl ⟨.closed, rfl⟩
  · cases found : i.freeId? draws with
    | none => exact .inl ⟨exhausted, rfl⟩
    | some id => exact .inr ⟨id, by simpa using List.find?_some found, rfl⟩

theorem measure_of_closed {i : Initiator} (closed : i.isClosed = true)
    (draws : List CorrelationId) : i.measure draws = i.fail .closed := by
  rw [measure, if_pos closed]

/-- A frame is too short, names no outstanding request, or settles one. -/
theorem onFrame_cases {i : Initiator} (sound : i.Sound) (payload : Bytes) :
    (payload.length < CorrelationId.width ∧
      i.onFrame payload = (.error (.noPrefixIn payload.length),
        { i with tally := (i.tally.frameReceived payload.length).framingError })) ∨
    (∃ id, Word.littleEndian id <+: payload ∧ (∀ entry ∈ i.ledger.table.entries, entry.id ≠ id) ∧
      i.onFrame payload = (.error (.violation id),
        { i with tally := (i.tally.frameReceived payload.length).violation })) ∨
    ∃ entry ∈ i.ledger.table.entries, Word.littleEndian entry.id <+: payload ∧
      i.onFrame payload = (.ok (Clock.elapsed entry.sentAt i.clock),
        { i with
          ledger := i.ledger.strike entry (.answered (Clock.elapsed entry.sentAt i.clock))
          deadlines := i.deadlines.cancel? entry.deadline
          tally := (i.tally.frameReceived payload.length).replyMatched
            (Clock.elapsed entry.sentAt i.clock) }) := by
  rcases Nat.lt_or_ge payload.length CorrelationId.width with short | long
  · exact .inl ⟨short, by rw [onFrame, CorrelationId.read_of_short short]⟩
  · obtain ⟨id, read⟩ := CorrelationId.exists_read_of_long long
    have named := CorrelationId.read_eq_ok_iff.mp read
    refine .inr ?_
    rw [onFrame, read]
    simp only [Ledger.resolve?_eq]
    cases found : i.ledger.table.find? id with
    | none => exact .inl ⟨id, named, Outstanding.find?_eq_none_iff.mp found, rfl⟩
    | some entry =>
        obtain ⟨member, rfl⟩ := (Outstanding.find?_eq_some_iff sound.ledger.distinct).mp found
        exact .inr ⟨entry, member, named, rfl⟩

/-- A deadline settles the request that it was armed for. One that is not armed does
nothing. -/
theorem fire_cases {i : Initiator} (sound : i.Sound) (number : Nat) :
    ((∀ entry ∈ i.ledger.table.entries, entry.deadline ≠ some number) ∧
      i.fire number = (false, { i with deadlines := (i.deadlines.take number).2 })) ∨
    ∃ entry ∈ i.ledger.table.entries, entry.deadline = some number ∧
      i.fire number = (true,
        { i with
          ledger := i.ledger.strike entry (.failed .timeout)
          deadlines := (i.deadlines.take number).2
          tally := i.tally.timedOut }) := by
  cases taken : i.deadlines.take number with
  | mk action deadlines =>
      cases action with
      | none =>
          refine .inl ⟨?_, by simp only [fire, taken]⟩
          intro entry member same
          have armed := sound.armed member
          rw [same] at armed
          exact Deadlines.take_eq_none (congrArg Prod.fst taken) entry.id armed
      | some id =>
          have armed := Deadlines.take_eq_some (congrArg Prod.fst taken)
          obtain ⟨entry, member, rfl, same⟩ := sound.entry_of_armed armed
          refine .inr ⟨entry, member, same, ?_⟩
          have found := (Outstanding.find?_eq_some_iff sound.ledger.distinct).mpr ⟨member, rfl⟩
          simp only [fire, taken, expire, Ledger.expire?_eq, found, Option.map_some]

/-- The first closing settles all requests and cancels their deadlines, and there is
no second one. -/
theorem onClose_eq {i : Initiator} (sound : i.Sound) :
    i.onClose =
      if i.isClosed then (0, i)
      else
        (i.pendingCount,
          { i with
            ledger := i.ledger.drain
            deadlines :=
              (i.deadlines.cancelAll (i.ledger.table.entries.map (·.deadline))).shutdown
            tally := i.tally.failedOnClose i.pendingCount }) := by
  rw [onClose, Ledger.close?_eq sound.ledger, isClosed]
  cases i.ledger.table.closed with
  | true => rfl
  | false =>
      simp only [Bool.false_eq_true, ↓reduceIte, List.length_map]
      rfl

/-! ## What keeps an initiator sound -/

theorem sound_start (uploadSize timeout clock : Nat) : (start uploadSize timeout clock).Sound := by
  refine ⟨Ledger.sound_empty, ⟨List.Pairwise.nil, ?_⟩, rfl, rfl⟩
  intro d member
  exact absurd member List.not_mem_nil

theorem sound_fail {i : Initiator} (sound : i.Sound) (fault : Fault) : (i.fail fault).Sound :=
  ⟨Ledger.sound_fail sound.ledger fault, sound.numbered, sound.covered, sound.shutdowns⟩

theorem sound_register {i : Initiator} (sound : i.Sound) {id : CorrelationId}
    (free : i.ledger.table.refusal? id = none) : (i.register id).Sound := by
  obtain ⟨isOpen, -⟩ := Outstanding.refusal?_eq_none_iff.mp free
  have up : i.deadlines.isShutDown = false := sound.isShutDown.trans isOpen
  rw [register_eq up]
  constructor
  · exact Ledger.sound_enter sound.ledger free i.clock _
  · exact Deadlines.numbered_schedule sound.numbered up i.timeout id
  -- The deadline comes last among the armed ones, as its entry does in the table.
  · rw [Deadlines.armedFor, (Deadlines.armed_schedule up i.timeout id).2, List.map_append,
      ← Deadlines.armedFor, sound.covered]
    simp [Ledger.enter, Outstanding.insert]
  · simp only [Deadlines.schedule, up, Bool.false_eq_true, ↓reduceIte]
    exact sound.shutdowns

theorem sound_send {i : Initiator} (sound : i.Sound) (id : CorrelationId) : (i.send id).Sound := by
  obtain ⟨ledger, numbered, covered, shutdowns⟩ := sound
  constructor
  · rwa [ledger_send]
  · rwa [deadlines_send]
  · rwa [ledger_send, deadlines_send]
  · rwa [isClosed, ledger_send, deadlines_send]

theorem sound_measure {i : Initiator} (sound : i.Sound) (draws : List CorrelationId) :
    (i.measure draws).Sound := by
  rcases measure_cases draws i with ⟨fault, same⟩ | ⟨id, free, same⟩
  · rw [same]
    exact sound_fail sound fault
  · rw [same]
    exact sound_send (sound_register sound free) id

/-- An entry may be struck out as soon as its deadline is armed no more. -/
theorem sound_of_strike {i j : Initiator} (sound : i.Sound) {entry : Entry} {outcome : Outcome}
    (member : entry ∈ i.ledger.table.entries) (ledger : j.ledger = i.ledger.strike entry outcome)
    (numbered : j.deadlines.Numbered)
    (armed : j.deadlines.armedFor = i.deadlines.armedFor.filter (·.2 ≠ entry.deadline))
    (shutdowns : j.deadlines.shutdowns = i.deadlines.shutdowns) : j.Sound := by
  constructor
  · rw [ledger]
    exact Ledger.sound_strike sound.ledger member outcome
  · exact numbered
  · rw [armed, sound.armed_of_erase member, ledger]
    rfl
  · rw [shutdowns, isClosed, ledger]
    exact sound.shutdowns

theorem sound_onFrame {i : Initiator} (sound : i.Sound) (payload : Bytes) :
    (i.onFrame payload).2.Sound := by
  rcases onFrame_cases sound payload with
    ⟨-, same⟩ | ⟨id, -, -, same⟩ | ⟨entry, member, -, same⟩
  · rw [same]
    exact ⟨sound.ledger, sound.numbered, sound.covered, sound.shutdowns⟩
  · rw [same]
    exact ⟨sound.ledger, sound.numbered, sound.covered, sound.shutdowns⟩
  · rw [same]
    refine sound_of_strike sound member rfl ?_ ?_ ?_
    · exact Deadlines.numbered_cancelAll sound.numbered [entry.deadline]
    · refine (Deadlines.armedFor_cancelAll [entry.deadline] i.deadlines).trans ?_
      simp only [List.mem_singleton, ne_eq]
    · exact Deadlines.shutdowns_cancel? entry.deadline i.deadlines

theorem sound_fire {i : Initiator} (sound : i.Sound) (number : Nat) :
    (i.fire number).2.Sound := by
  rcases fire_cases sound number with ⟨unarmed, same⟩ | ⟨entry, member, deadline, same⟩
  · rw [same]
    refine ⟨sound.ledger, Deadlines.numbered_take sound.numbered number, ?_, sound.shutdowns⟩
    -- What is taken out was cancelled or never there: no armed deadline has this number.
    rw [Deadlines.armedFor_take, List.filter_eq_self.mpr]
    · exact sound.covered
    · rintro ⟨id, deadline⟩ armed
      obtain ⟨entry, member, -, named⟩ := sound.entry_of_armed armed
      simpa [← named] using unarmed entry member
  · rw [same]
    refine sound_of_strike sound member rfl ?_ ?_ rfl
    · exact Deadlines.numbered_take sound.numbered number
    · rw [deadline]
      exact Deadlines.armedFor_take number i.deadlines

/-- Closing leaves no deadline armed. -/
theorem armedFor_cancelAll {i : Initiator} (sound : i.Sound) :
    (i.deadlines.cancelAll (i.ledger.table.entries.map (·.deadline))).armedFor = [] := by
  rw [Deadlines.armedFor_cancelAll, List.filter_eq_nil_iff]
  rintro ⟨id, deadline⟩ armed
  obtain ⟨entry, member, -, rfl⟩ := sound.entry_of_armed armed
  simpa using ⟨entry, member, rfl⟩

theorem sound_onClose {i : Initiator} (sound : i.Sound) : i.onClose.2.Sound := by
  rw [onClose_eq sound]
  cases closed : i.isClosed with
  | true => exact sound
  | false =>
      constructor
      · exact Ledger.sound_drain i.ledger
      · exact ⟨(Deadlines.numbered_cancelAll sound.numbered _).ascending,
          (Deadlines.numbered_cancelAll sound.numbered _).below⟩
      · exact armedFor_cancelAll sound
      · have before := sound.shutdowns
        rw [closed] at before
        simp only [Bool.false_eq_true, ↓reduceIte, Deadlines.shutdown,
          Deadlines.shutdowns_cancelAll, before]
        rfl

theorem sound_act {i : Initiator} (sound : i.Sound) (event : Event) : (i.act event).Sound := by
  cases event with
  | measure draws => exact sound_measure sound draws
  | frame payload => exact sound_onFrame sound payload
  | fire number => exact sound_fire sound number
  | close => exact sound_onClose sound
  | dropMeasurement slot =>
      exact ⟨Ledger.sound_dropMeasurement sound.ledger slot, sound.numbered, sound.covered,
        sound.shutdowns⟩
  | advance | takeQueued | dropOutbound =>
      exact ⟨sound.ledger, sound.numbered, sound.covered, sound.shutdowns⟩

theorem sound_run {i : Initiator} (sound : i.Sound) (events : List Event) :
    (i.run events).Sound := by
  induction events generalizing i with
  | nil => exact sound
  | cons event events ih => exact ih (sound_act sound event)

/-! ## What events leave alone -/

theorem send_frame (id : CorrelationId) (i : Initiator) :
    (i.send id).uploadSize = i.uploadSize ∧ (i.send id).clock = i.clock ∧
      (i.send id).outbound.listening = i.outbound.listening := by
  rw [send]
  split
  · exact ⟨rfl, rfl, rfl⟩
  · exact ⟨rfl, rfl, rfl⟩

/-- Requests have one size, time passes by itself, and once nobody takes payloads it
stays so. -/
theorem act_frame {i : Initiator} (sound : i.Sound) (event : Event) :
    (i.act event).uploadSize = i.uploadSize ∧ (i.act event).clock = i.clock + event.nanos ∧
      (i.act event).outbound.listening = (i.outbound.listening && event ≠ .dropOutbound) := by
  cases event with
  | measure draws =>
      rcases measure_cases draws i with ⟨fault, same⟩ | ⟨id, -, same⟩
      · rw [act, same]
        exact ⟨rfl, rfl, (Bool.and_true _).symm⟩
      · rw [act, same]
        obtain ⟨size, clock, listening⟩ := send_frame id (i.register id)
        exact ⟨size, clock, listening.trans (Bool.and_true _).symm⟩
  | frame payload =>
      rcases onFrame_cases sound payload with ⟨-, same⟩ | ⟨_, -, -, same⟩ | ⟨_, -, -, same⟩ <;>
        rw [act, same] <;> exact ⟨rfl, rfl, (Bool.and_true _).symm⟩
  | fire number =>
      rcases fire_cases sound number with ⟨-, same⟩ | ⟨_, -, -, same⟩ <;>
        rw [act, same] <;> exact ⟨rfl, rfl, (Bool.and_true _).symm⟩
  | close =>
      rw [act, onClose_eq sound]
      cases i.isClosed <;> exact ⟨rfl, rfl, (Bool.and_true _).symm⟩
  | advance | dropMeasurement | takeQueued => exact ⟨rfl, rfl, (Bool.and_true _).symm⟩
  | dropOutbound => exact ⟨rfl, rfl, (Bool.and_false _).symm⟩

/-- Only a measurement adds to the payloads that are queued. -/
theorem queued_of_not_measure {i : Initiator} (sound : i.Sound) (event : Event)
    (other : ∀ draws, event ≠ .measure draws) :
    (i.act event).outbound.queued = i.outbound.queued ∨ (i.act event).outbound.queued = [] := by
  cases event with
  | measure draws => exact absurd rfl (other draws)
  | frame payload =>
      rcases onFrame_cases sound payload with ⟨-, same⟩ | ⟨_, -, -, same⟩ | ⟨_, -, -, same⟩ <;>
        rw [act, same] <;> exact .inl rfl
  | fire number =>
      rcases fire_cases sound number with ⟨-, same⟩ | ⟨_, -, -, same⟩ <;>
        rw [act, same] <;> exact .inl rfl
  | close =>
      rw [act, onClose_eq sound]
      cases i.isClosed <;> exact .inl rfl
  | advance | dropMeasurement => exact .inl rfl
  | takeQueued | dropOutbound => exact .inr rfl

theorem uploadSize_run {i : Initiator} (sound : i.Sound) (events : List Event) :
    (i.run events).uploadSize = i.uploadSize := by
  induction events generalizing i with
  | nil => rfl
  | cons event events ih => exact (ih (sound_act sound event)).trans (act_frame sound event).1

theorem clock_run {i : Initiator} (sound : i.Sound) (events : List Event) :
    (i.run events).clock = i.clock + elapsed events := by
  induction events generalizing i with
  | nil => rfl
  | cons event events ih =>
      calc
        (i.run (event :: events)).clock = (i.act event).clock + elapsed events :=
          ih (sound_act sound event)
        _ = i.clock + event.nanos + elapsed events := by rw [(act_frame sound event).2.1]
        _ = i.clock + elapsed (event :: events) := by
          rw [elapsed, elapsed, List.map_cons, List.sum_cons, Nat.add_assoc]

end Initiator

end RoundTrip
