import RoundTrip.Proofs.Initiator

/-!
# How a request is settled

An outstanding request is settled by a frame that begins with its id, by its own
deadline or by closing (`Event.outcome?`), whatever else happens. All that an event
does to the ledger is one of six changes (`change_act`). From these follow which
entries are left in the table (`entries_act`) and what becomes of each measurement
(`getElem?_act_of_entry`, `getElem?_act_of_no_entry`).

Main result: of all events after a request was made, the first one that can settle it
decides its outcome, and nothing that comes later changes it
(`first_event_decides`).
-/

namespace RoundTrip

namespace Event

/-- The outcome that an event gives to an outstanding request, if the request was made
so many nanoseconds ago. -/
def outcome? (entry : Entry) (nanos : Nat) : Event → Option Outcome
  | frame payload =>
      if Word.littleEndian entry.id <+: payload then some (.answered nanos) else none
  | fire number => if entry.deadline = some number then some (.failed .timeout) else none
  | close => some (.failed .closed)
  | measure _ | advance _ | dropMeasurement _ | takeQueued | dropOutbound => none

/-- The outcomes that an event gives at some time to requests that are outstanding. -/
def outcomes (entries : List Entry) (now : Nat) (event : Event) : List Outcome :=
  entries.filterMap fun entry => event.outcome? entry (Clock.elapsed entry.sentAt now)

def settles (entry : Entry) (event : Event) : Bool := (event.outcome? entry 0).isSome

/-- The event neither settles the request nor drops its measurement. -/
def Passes (entry : Entry) (event : Event) : Prop :=
  event.settles entry = false ∧ event ≠ .dropMeasurement entry.slot

instance (entry : Entry) (event : Event) : Decidable (event.Passes entry) :=
  inferInstanceAs (Decidable (_ ∧ _))

theorem settles_eq (entry : Entry) (nanos : Nat) (event : Event) :
    event.settles entry = (event.outcome? entry nanos).isSome := by
  cases event with
  | frame payload =>
      simp only [settles, outcome?]
      split <;> rfl
  | measure | fire | close | advance | dropMeasurement | takeQueued | dropOutbound => rfl

theorem outcome?_eq_none {entry : Entry} {event : Event} (unsettled : event.settles entry = false)
    (nanos : Nat) : event.outcome? entry nanos = none := by
  rw [settles_eq entry nanos] at unsettled
  simpa using unsettled

theorem settles_of_outcome? {entry : Entry} {nanos : Nat} {event : Event} {outcome : Outcome}
    (decided : event.outcome? entry nanos = some outcome) : event.settles entry = true := by
  rw [settles_eq entry nanos, decided]
  rfl

end Event

theorem CorrelationId.eq_of_prefix {payload : Bytes} {id other : CorrelationId}
    (first : Word.littleEndian id <+: payload) (second : Word.littleEndian other <+: payload) :
    id = other := by
  have same := (read_eq_ok_iff.mpr first).symm.trans (read_eq_ok_iff.mpr second)
  injection same

namespace Initiator

/-! ## Which requests an event settles -/

/-- No outstanding request is settled. -/
def Quiet (i : Initiator) (event : Event) : Prop :=
  ∀ entry ∈ i.ledger.table.entries, event.settles entry = false

/-- One outstanding request is settled, and no other. -/
structure Decides (i : Initiator) (event : Event) (entry : Entry) (outcome : Outcome) : Prop where
  member : entry ∈ i.ledger.table.entries
  given : event.outcome? entry (Clock.elapsed entry.sentAt i.clock) = some outcome
  others : ∀ other ∈ i.ledger.table.entries, other.id ≠ entry.id → event.settles other = false

theorem quiet_of_short {i : Initiator} {payload : Bytes}
    (short : payload.length < CorrelationId.width) : i.Quiet (.frame payload) := by
  intro entry _
  have unnamed : ¬ Word.littleEndian entry.id <+: payload := by
    intro named
    exact Nat.not_le_of_lt short named.length_le
  simp [Event.settles, Event.outcome?, unnamed]

theorem quiet_of_unknown {i : Initiator} {payload : Bytes} {id : CorrelationId}
    (named : Word.littleEndian id <+: payload)
    (unknown : ∀ entry ∈ i.ledger.table.entries, entry.id ≠ id) : i.Quiet (.frame payload) := by
  intro entry member
  have unnamed : ¬ Word.littleEndian entry.id <+: payload := by
    intro alsoNamed
    exact unknown entry member (CorrelationId.eq_of_prefix alsoNamed named)
  simp [Event.settles, Event.outcome?, unnamed]

theorem quiet_of_unarmed {i : Initiator} {number : Nat}
    (unarmed : ∀ entry ∈ i.ledger.table.entries, entry.deadline ≠ some number) :
    i.Quiet (.fire number) := by
  intro entry member
  simp [Event.settles, Event.outcome?, unarmed entry member]

theorem decides_of_named {i : Initiator} {payload : Bytes} {entry : Entry}
    (member : entry ∈ i.ledger.table.entries) (named : Word.littleEndian entry.id <+: payload) :
    i.Decides (.frame payload) entry (.answered (Clock.elapsed entry.sentAt i.clock)) := by
  refine ⟨member, by simp [Event.outcome?, named], ?_⟩
  intro other _ different
  have unnamed : ¬ Word.littleEndian other.id <+: payload := by
    intro alsoNamed
    exact different (CorrelationId.eq_of_prefix alsoNamed named)
  simp [Event.settles, Event.outcome?, unnamed]

theorem decides_of_armed {i : Initiator} (sound : i.Sound) {number : Nat} {entry : Entry}
    (member : entry ∈ i.ledger.table.entries) (armed : entry.deadline = some number) :
    i.Decides (.fire number) entry (.failed .timeout) := by
  refine ⟨member, by simp [Event.outcome?, armed], ?_⟩
  intro other otherMember different
  have unarmed : other.deadline ≠ some number := by
    rw [← armed]
    exact mt (sound.deadline_eq_iff member otherMember).mp different
  simp [Event.settles, Event.outcome?, unarmed]

/-! ## Changes of the ledger -/

/-- What an event makes of the ledger. -/
inductive Change (i : Initiator) : Event → Ledger → Prop
  | kept {event : Event} :
      i.Quiet event → (∀ slot, event ≠ .dropMeasurement slot) → Change i event i.ledger
  | refused (draws : List CorrelationId) (fault : Fault) :
      Change i (.measure draws) (i.ledger.fail fault)
  | entered (draws : List CorrelationId) {id : CorrelationId} :
      i.ledger.table.refusal? id = none →
      Change i (.measure draws) (i.ledger.enter id i.clock (some i.deadlines.scheduled))
  | struck {event : Event} {entry : Entry} {outcome : Outcome} :
      i.Decides event entry outcome → Change i event (i.ledger.strike entry outcome)
  | drained : Change i .close i.ledger.drain
  | dropped (slot : Nat) : Change i (.dropMeasurement slot) (i.ledger.dropMeasurement slot)

theorem change_measure {i : Initiator} (sound : i.Sound) (draws : List CorrelationId) :
    Change i (.measure draws) (i.measure draws).ledger := by
  rcases measure_cases draws i with ⟨fault, same⟩ | ⟨id, free, same⟩
  · rw [same]
    exact .refused draws fault
  · rw [same, ledger_send, ledger_register sound free]
    exact .entered draws free

theorem change_onFrame {i : Initiator} (sound : i.Sound) (payload : Bytes) :
    Change i (.frame payload) (i.onFrame payload).2.ledger := by
  rcases onFrame_cases sound payload with
    ⟨short, same⟩ | ⟨id, named, unknown, same⟩ | ⟨entry, member, named, same⟩
  · rw [same]
    exact .kept (quiet_of_short short) (by simp)
  · rw [same]
    exact .kept (quiet_of_unknown named unknown) (by simp)
  · rw [same]
    exact .struck (decides_of_named member named)

theorem change_fire {i : Initiator} (sound : i.Sound) (number : Nat) :
    Change i (.fire number) (i.fire number).2.ledger := by
  rcases fire_cases sound number with ⟨unarmed, same⟩ | ⟨entry, member, armed, same⟩
  · rw [same]
    exact .kept (quiet_of_unarmed unarmed) (by simp)
  · rw [same]
    exact .struck (decides_of_armed sound member armed)

theorem change_act {i : Initiator} (sound : i.Sound) (event : Event) :
    Change i event (i.act event).ledger := by
  cases event with
  | measure draws => exact change_measure sound draws
  | frame payload => exact change_onFrame sound payload
  | fire number => exact change_fire sound number
  | close =>
      rw [act, onClose_eq sound]
      cases closed : i.isClosed with
      | true =>
          -- A closed table has no entry that closing again could settle.
          refine .kept ?_ (by simp)
          intro entry member
          exact absurd (sound.ledger.closed closed ▸ member) List.not_mem_nil
      | false => exact .drained
  | dropMeasurement slot => exact .dropped slot
  | advance | takeQueued | dropOutbound => exact .kept (fun _ _ => rfl) (by simp)

/-! ## What is left in the table -/

/-- The request that was made between two states: its measurement has an id. -/
def made? (before after : Initiator) : Option Entry :=
  ((after.measurements[before.measurements.length]?).bind (·.id)).map before.entryNow

theorem filter_of_quiet {i : Initiator} {event : Event} (quiet : i.Quiet event) :
    i.ledger.table.entries.filter (!event.settles ·) = i.ledger.table.entries := by
  apply List.filter_eq_self.mpr
  intro entry member
  simp [quiet entry member]

/-- The entries that an event does not settle are left, and a request that was made
comes last. -/
theorem entries_act {i : Initiator} (sound : i.Sound) (event : Event) :
    (i.act event).ledger.table.entries =
      i.ledger.table.entries.filter (!event.settles ·) ++ (made? i (i.act event)).toList := by
  have change := change_act sound event
  rw [made?, measurements]
  generalize (i.act event).ledger = after at change ⊢
  cases change with
  | kept quiet =>
      rw [filter_of_quiet quiet]
      simp [measurements]
  | refused draws fault =>
      rw [filter_of_quiet fun _ _ => rfl]
      simp [measurements, Ledger.fail, Measurement.failed]
  | @entered draws id free =>
      rw [filter_of_quiet fun _ _ => rfl]
      simp [measurements, Ledger.enter, Measurement.waiting, Outstanding.insert, entryNow]
  | @struck event entry outcome decides =>
      have settled := Event.settles_of_outcome? decides.given
      have left : i.ledger.table.entries.filter (!event.settles ·) =
          i.ledger.table.entries.filter (·.id ≠ entry.id) := by
        apply List.filter_congr
        intro other otherMember
        by_cases same : other.id = entry.id
        · rw [List.inj_on_of_nodup_map sound.ledger.distinct otherMember decides.member same]
          simp [settled]
        · simp [decides.others other otherMember same, same]
      rw [left]
      simp [measurements, Ledger.strike, Outstanding.erase]
  | drained =>
      rw [List.filter_eq_nil_iff.mpr fun entry member => by simp [Event.settles, Event.outcome?]]
      simp [measurements, Ledger.drain]
  | dropped slot =>
      rw [filter_of_quiet fun _ _ => rfl]
      simp [measurements, Ledger.dropMeasurement]

/-! ## What becomes of a measurement -/

/-- What an event makes of the measurement of an outstanding request. -/
def measured (entry : Entry) (nanos : Nat) (event : Event) (m : Measurement) : Measurement :=
  match event.outcome? entry nanos with
  | some outcome => m.deliver outcome
  | none => if event = .dropMeasurement entry.slot then m.drop else m

theorem getElem?_act_of_entry {i : Initiator} (sound : i.Sound) {entry : Entry}
    (member : entry ∈ i.ledger.table.entries) {m : Measurement}
    (present : i.measurements[entry.slot]? = some m) (event : Event) :
    (i.act event).measurements[entry.slot]? =
      some (measured entry (Clock.elapsed entry.sentAt i.clock) event m) := by
  have change := change_act sound event
  rw [measurements, measured] at *
  generalize (i.act event).ledger = after at change ⊢
  cases change with
  | kept quiet stays =>
      rw [Event.outcome?_eq_none (quiet entry member), present]
      simp [stays]
  | refused draws fault => exact Ledger.getElem?_append_one.mpr (.inl present)
  | entered draws free => exact Ledger.getElem?_append_one.mpr (.inl present)
  | @struck event other outcome decides =>
      by_cases own : entry = other
      · subst own
        rw [decides.given, Ledger.strike, List.getElem?_modify_eq, present]
        rfl
      · have different : entry.id ≠ other.id :=
          mt (List.inj_on_of_nodup_map sound.ledger.distinct member decides.member) own
        rw [Event.outcome?_eq_none (decides.others entry member different), Ledger.strike,
          List.getElem?_modify_ne _ _ (sound.ledger.slot_ne decides.member member different).symm,
          present]
        have stays : event ≠ .dropMeasurement entry.slot := by
          rintro rfl
          cases decides.given
        simp [stays]
  | drained =>
      rw [Ledger.drain, List.getElem?_map, present]
      rfl
  | dropped slot =>
      rw [Ledger.getElem?_dropMeasurement present]
      simp [Event.outcome?]

theorem getElem?_act_of_no_entry {i : Initiator} (sound : i.Sound) {slot : Nat}
    (unowned : ∀ entry ∈ i.ledger.table.entries, entry.slot ≠ slot) {m : Measurement}
    (present : i.measurements[slot]? = some m) (event : Event) :
    (i.act event).measurements[slot]? =
      some (if event = .dropMeasurement slot then m.drop else m) := by
  have change := change_act sound event
  rw [measurements] at *
  generalize (i.act event).ledger = after at change ⊢
  cases change with
  | kept quiet stays =>
      rw [present]
      simp [stays]
  | refused draws fault => exact Ledger.getElem?_append_one.mpr (.inl present)
  | entered draws free => exact Ledger.getElem?_append_one.mpr (.inl present)
  | @struck event other outcome decides =>
      rw [Ledger.strike, List.getElem?_modify_ne _ _ (unowned other decides.member), present]
      have stays : event ≠ .dropMeasurement slot := by
        rintro rfl
        cases decides.given
      simp [stays]
  | drained =>
      -- Closing reaches every measurement, but this one does not wait.
      have settled : m.progress ≠ .pending := by
        intro pending
        obtain ⟨entry, member, same⟩ := sound.ledger.waiting slot m present pending
        exact unowned entry member same
      rw [Ledger.drain, List.getElem?_map, present, Option.map_some,
        Measurement.deliver_of_ne_pending settled]
      rfl
  | dropped other =>
      rw [Ledger.getElem?_dropMeasurement present]
      simp

/-! ## Runs -/

/-- Only a measurement makes a request. -/
theorem made?_eq_none {i : Initiator} (sound : i.Sound) (event : Event)
    (other : ∀ draws, event ≠ .measure draws) : made? i (i.act event) = none := by
  have change := change_act sound event
  rw [made?, measurements]
  generalize (i.act event).ledger = after at change ⊢
  cases change with
  | kept => simp [measurements]
  | refused draws => exact absurd rfl (other draws)
  | entered draws => exact absurd rfl (other draws)
  | struck => simp [measurements, Ledger.strike]
  | drained => simp [measurements, Ledger.drain]
  | dropped => simp [measurements, Ledger.dropMeasurement]

/-- What comes of a measurement: nothing but its failure, or a request. -/
theorem made?_measure {i : Initiator} (sound : i.Sound) (draws : List CorrelationId) :
    (made? i (i.measure draws) = none ∧ ∃ fault, i.measure draws = i.fail fault) ∨
      ∃ id, made? i (i.measure draws) = some (i.entryNow id) ∧
        i.ledger.table.refusal? id = none ∧ i.measure draws = (i.register id).send id := by
  rcases measure_cases draws i with ⟨fault, same⟩ | ⟨id, free, same⟩
  · refine .inl ⟨?_, fault, same⟩
    rw [same]
    simp [made?, measurements, fail, Ledger.fail, Measurement.failed]
  · refine .inr ⟨id, ?_, free, same⟩
    rw [same, made?, measurements, ledger_send, ledger_register sound free]
    simp [measurements, Ledger.enter, Measurement.waiting]

/-- A request that is passed over stays outstanding, and its measurement stays as it
is. -/
theorem run_of_passes {i : Initiator} (sound : i.Sound) {entry : Entry}
    (member : entry ∈ i.ledger.table.entries) {m : Measurement}
    (present : i.measurements[entry.slot]? = some m) {events : List Event}
    (passes : ∀ event ∈ events, event.Passes entry) :
    entry ∈ (i.run events).ledger.table.entries ∧
      (i.run events).measurements[entry.slot]? = some m := by
  induction events generalizing i with
  | nil => exact ⟨member, present⟩
  | cons event events ih =>
      obtain ⟨unsettled, stays⟩ := passes event List.mem_cons_self
      apply ih (sound_act sound event)
      · rw [entries_act sound event]
        exact List.mem_append_left _ (List.mem_filter.mpr ⟨member, by simp [unsettled]⟩)
      · rw [getElem?_act_of_entry sound member present, measured,
          Event.outcome?_eq_none unsettled]
        simp [stays]
      · intro later laterMember
        exact passes later (List.mem_cons_of_mem _ laterMember)

/-- How far the request of a measurement has come. -/
def progress? (slot : Nat) (i : Initiator) : Option Progress :=
  (i.measurements[slot]?).map (·.progress)

/-- A measurement that no entry waits for is not pending, so that nothing is left to
happen to it. -/
theorem progress?_act_of_no_entry {i : Initiator} (sound : i.Sound) {slot : Nat}
    (unowned : ∀ entry ∈ i.ledger.table.entries, entry.slot ≠ slot) {progress : Progress}
    (known : i.progress? slot = some progress) (event : Event) :
    (i.act event).progress? slot = some progress := by
  obtain ⟨m, present, rfl⟩ := Option.map_eq_some_iff.mp known
  have notPending : m.progress ≠ .pending := by
    intro pending
    obtain ⟨entry, member, same⟩ := sound.ledger.waiting slot m present pending
    exact unowned entry member same
  unfold progress?
  rw [getElem?_act_of_no_entry sound unowned present event]
  split
  · show some m.progress.drop = some m.progress
    rw [Progress.drop_of_ne_pending notPending]
  · rfl

theorem progress?_act_of_settled {i : Initiator} (sound : i.Sound) {slot : Nat} {outcome : Outcome}
    (settled : i.progress? slot = some (.settled outcome)) (event : Event) :
    (i.act event).progress? slot = some (.settled outcome) := by
  refine progress?_act_of_no_entry sound ?_ settled event
  rintro entry member rfl
  obtain ⟨m, present, progress⟩ := Option.map_eq_some_iff.mp settled
  obtain ⟨waiting, there, -, waits⟩ := sound.ledger.awaited entry member
  obtain rfl := Option.some.inj (present.symm.trans there)
  have both := progress.symm.trans waits
  split at both <;> cases both

/-- An outcome is there to stay. -/
theorem progress?_run_of_settled {i : Initiator} (sound : i.Sound) {slot : Nat} {outcome : Outcome}
    (settled : i.progress? slot = some (.settled outcome)) (events : List Event) :
    (i.run events).progress? slot = some (.settled outcome) := by
  induction events generalizing i with
  | nil => exact settled
  | cons event events ih =>
      exact ih (sound_act sound event) (progress?_act_of_settled sound settled event)

/-- What a request begins with. -/
theorem measure_made {i : Initiator} (sound : i.Sound) {draws : List CorrelationId} {entry : Entry}
    (made : made? i (i.measure draws) = some entry) :
    entry.sentAt = i.clock ∧
      entry ∈ (i.measure draws).ledger.table.entries ∧
      (i.measure draws).measurements[entry.slot]? = some (.waiting entry.id) ∧
      (i.measure draws).deadlines.armedFor =
        i.deadlines.armedFor ++ [(entry.id, entry.deadline)] := by
  have after := sound_measure sound draws
  rcases made?_measure sound draws with ⟨failed, -⟩ | ⟨id, requested, free, same⟩
  · rw [failed] at made
    cases made
  · obtain rfl := Option.some.inj (made.symm.trans requested)
    have ledger : (i.measure draws).ledger =
        i.ledger.enter id i.clock (some i.deadlines.scheduled) := by
      rw [same, ledger_send, ledger_register sound free]
    refine ⟨rfl, ?_, ?_, ?_⟩
    · rw [ledger]
      exact List.mem_append_right _ (List.mem_singleton.mpr rfl)
    · rw [measurements, ledger]
      exact Ledger.getElem?_append_one.mpr (.inr ⟨rfl, rfl⟩)
    · rw [after.covered, sound.covered, ledger]
      simp [Ledger.enter, Outstanding.insert, entryNow, measurements]

/-- A request that was made arms one deadline and waits. Of all the events that follow,
the first one that can settle it decides: a frame with its id gives the time that has
passed since, its deadline a timeout, closing the fault of a closed connection. What
comes later changes nothing. -/
theorem first_event_decides (uploadSize timeout clock : Nat) (before : List Event)
    (draws : List CorrelationId) {entry : Entry}
    (made : made? ((start uploadSize timeout clock).run before)
      (((start uploadSize timeout clock).run before).measure draws) = some entry) :
    let earlier := (start uploadSize timeout clock).run before
    let asked := earlier.measure draws
    asked.deadlines.armedFor = earlier.deadlines.armedFor ++ [(entry.id, entry.deadline)] ∧
    (∀ quiet, (∀ event ∈ quiet, event.Passes entry) →
      (asked.run quiet).progress? entry.slot = some .pending) ∧
    ∀ quiet event later outcome, (∀ event ∈ quiet, event.Passes entry) →
      event.outcome? entry (elapsed quiet) = some outcome →
      (asked.run (quiet ++ event :: later)).progress? entry.slot = some (.settled outcome) := by
  intro earlier asked
  have soundEarlier : earlier.Sound := sound_run (sound_start uploadSize timeout clock) before
  have sound : asked.Sound := sound_act soundEarlier (.measure draws)
  obtain ⟨sentAt, member, present, armed⟩ := measure_made soundEarlier made
  have now : asked.clock = earlier.clock := (act_frame soundEarlier (.measure draws)).2.1
  refine ⟨armed, ?_, ?_⟩
  · intro quiet passes
    rw [progress?, (run_of_passes sound member present passes).2]
    rfl
  · intro quiet event later outcome passes decides
    have soundQuiet : (asked.run quiet).Sound := sound_run sound quiet
    obtain ⟨outstanding, waits⟩ := run_of_passes sound member present passes
    have passed : Clock.elapsed entry.sentAt (asked.run quiet).clock = elapsed quiet := by
      have clockQuiet := clock_run sound quiet
      rw [now] at clockQuiet
      rw [Clock.elapsed, clockQuiet, sentAt]
      omega
    have settled : ((asked.run quiet).act event).progress? entry.slot = some (.settled outcome) := by
      rw [progress?, getElem?_act_of_entry soundQuiet outstanding waits, measured, passed, decides]
      rfl
    rw [run_append]
    exact progress?_run_of_settled (sound_act soundQuiet event) settled later

/-- The second of two requests: its id is drawn when the first id is in use, its reply
comes after that of the first one, and then both ids are drawn again, its deadline is
run and the connection closes. -/
theorem first_event_decides_reply :
    let earlier := (start 4 5 100).run [.measure [9]]
    let entry : Entry := ⟨7, 100, 1, some 1⟩
    let quiet := [.advance 30, .frame [9, 0, 0, 0], .measure [9], .fire 0, .advance 12]
    let reply := Event.frame [7, 0, 0, 0, 1, 2]
    made? earlier (earlier.measure [9, 7]) = some entry ∧
    (∀ event ∈ quiet, event.Passes entry) ∧
    reply.outcome? entry (elapsed quiet) = some (.answered 42) ∧
    ((earlier.measure [9, 7]).run
      (quiet ++ reply :: [.measure [7, 8], .fire 1, .close])).progress? 1 =
        some (.settled (.answered 42)) := by
  intro earlier entry quiet reply
  have made : made? earlier (earlier.measure [9, 7]) = some entry := by decide
  have passes : ∀ event ∈ quiet, event.Passes entry := by decide
  have decides : reply.outcome? entry (elapsed quiet) = some (.answered 42) := by decide
  refine ⟨made, passes, decides, ?_⟩
  exact (first_event_decides 4 5 100 _ _ made).2.2 quiet reply _ _ passes decides

end Initiator

end RoundTrip
