import RoundTrip.Proofs.Initiator.Timeline

/-!
# Deadlines on time

What leaves the table does not come back (`gone_course`), and only the measurement of a request
that times out ends with a timeout (`lapse_of_timeout`). The delay of a request begins when it is
sent or later, and once it has passed the next turn takes the request out (`time_of_lapse`,
`out_once_due`).

Main result: a request times out neither too early nor never, one that was answered does not time
out any more, and a reply that comes after the timeout is a violation (`punctual`).
-/

namespace RoundTrip

namespace Initiator

variable {i : Initiator} {entry : Entry}

/-! ## A request that is settled -/

/-- A request that was made and is outstanding no more. -/
structure Gone (entry : Entry) (i : Initiator) : Prop where
  made : ∃ m, i.measurements[entry.slot]? = some m
  out : entry ∉ i.ledger.table.entries

theorem present_tick (sound : i.Sound) {slot : Nat} (present : ∃ m, i.measurements[slot]? = some m)
    (event : Event) : ∃ m, (i.tick event).measurements[slot]? = some m := by
  obtain ⟨m, known⟩ := present
  rw [measurements]
  rcases ledger_tick sound event with same | ⟨-, same⟩ <;> rw [same]
  · obtain ⟨later, stays, -⟩ := id_act sound known event
    exact ⟨later, stays⟩
  · exact ⟨m, known⟩

/-- What is made now has a number of its own, so it is no request that was made before. -/
theorem out_of_act (sound : i.Sound) (gone : i.Gone entry) (event : Event) :
    entry ∉ (i.act event).ledger.table.entries := by
  rw [entries_act sound event, List.mem_append, not_or]
  refine ⟨fun left => gone.out (List.mem_filter.mp left).1, fun made => ?_⟩
  obtain ⟨m, present⟩ := gone.made
  have slot := (getElem?_of_made (Option.mem_toList.mp made)).1
  have before := (List.getElem?_eq_some_iff.mp present).1
  omega

theorem gone_tick (sound : i.Sound) (gone : i.Gone entry) (event : Event) :
    (i.tick event).Gone entry := by
  refine ⟨present_tick sound gone.made event, ?_⟩
  rcases ledger_tick sound event with same | ⟨-, same⟩ <;> rw [same]
  · exact out_of_act sound gone event
  · exact gone.out

theorem gone_course (sound : i.Sound) (gone : i.Gone entry) (events : List Event) :
    (i.course events).Gone entry := by
  induction events generalizing i with
  | nil => exact gone
  | cons event events ih => exact ih (sound_tick sound event) (gone_tick sound gone event)

/-- A request that leaves the table does not come back. -/
theorem gone_of_left (sound : i.Sound) (member : entry ∈ i.ledger.table.entries) {event : Event}
    (left : entry ∉ (i.tick event).ledger.table.entries) : (i.tick event).Gone entry := by
  obtain ⟨m, present, -⟩ := sound.ledger.awaited entry member
  exact ⟨present_tick sound ⟨m, present⟩ event, left⟩

theorem out_of_lapse (sound : i.Sound) {events : List Event} {time : Nat}
    (lapse : (entry, time) ∈ i.lapses events) :
    entry ∉ (i.course events).ledger.table.entries := by
  obtain ⟨first, event, later, rfl, lapsed, -⟩ := lapse_split lapse
  have before := sound_course sound first
  obtain ⟨member, left, -⟩ := lapsed_cases before lapsed
  rw [course_append]
  exact (gone_course (sound_tick before event) (gone_of_left before member left) later).out

/-- Nothing that is gone can time out. -/
theorem not_lapsed_of_gone (sound : i.Sound) (gone : i.Gone entry) (events : List Event)
    (time : Nat) : (entry, time) ∉ i.lapses events := by
  intro lapse
  obtain ⟨first, event, later, rfl, lapsed, -⟩ := lapse_split lapse
  exact (gone_course sound gone first).out (lapsed_cases (sound_course sound first) lapsed).1

/-- A measurement that does not wait stays as far as it is. -/
theorem progress?_act_of_ne_pending (sound : i.Sound) {slot : Nat} {progress : Progress}
    (known : i.progress? slot = some progress) (notPending : progress ≠ .pending) (event : Event) :
    (i.act event).progress? slot = some progress := by
  obtain ⟨m, present, rfl⟩ := Option.map_eq_some_iff.mp known
  have dropped : m.drop.progress = m.progress := Progress.drop_of_ne_pending notPending
  by_cases owned : ∃ entry ∈ i.ledger.table.entries, entry.slot = slot
  · obtain ⟨entry, member, rfl⟩ := owned
    rw [progress?, getElem?_act_of_entry sound member present, measured, Option.map_some]
    split
    · rw [Measurement.deliver_of_ne_pending notPending]
    · split
      · rw [dropped]
      · rfl
  · have unowned : ∀ entry ∈ i.ledger.table.entries, entry.slot ≠ slot :=
      fun entry member same => owned ⟨entry, member, same⟩
    exact progress?_act_of_no_entry sound unowned known event

theorem progress?_course_of_ne_pending (sound : i.Sound) {slot : Nat} {progress : Progress}
    (known : i.progress? slot = some progress) (notPending : progress ≠ .pending)
    (events : List Event) : (i.course events).progress? slot = some progress := by
  induction events generalizing i with
  | nil => exact known
  | cons event events ih =>
      refine ih (sound_tick sound event) ?_
      rcases ledger_tick sound event with same | ⟨-, same⟩
      · rw [progress?, measurements, same]
        exact progress?_act_of_ne_pending sound known notPending event
      · rw [progress?, measurements, same]
        exact known

/-- A request that a frame or the closing has settled has not timed out. -/
theorem settled_in_time (sound : i.Sound) (member : entry ∈ i.ledger.table.entries) {event : Event}
    (other : ∀ number, event ≠ .fire number) (left : entry ∉ (i.act event).ledger.table.entries) :
    ∃ progress, (i.act event).progress? entry.slot = some progress ∧ progress ≠ .pending ∧
      progress ≠ .settled (.failed .timeout) := by
  obtain ⟨m, present, -, awaits⟩ := sound.ledger.awaited entry member
  have settles : event.settles entry = true := by
    by_contra kept
    rw [entries_act sound event] at left
    exact left (List.mem_append_left _ (List.mem_filter.mpr ⟨member, by simpa using kept⟩))
  have decided := Event.settles_eq entry (Clock.elapsed entry.sentAt i.clock) event
  rw [settles, eq_comm, Option.isSome_iff_exists] at decided
  obtain ⟨outcome, given⟩ := decided
  have inTime : outcome ≠ .failed .timeout := by
    rintro rfl
    cases event with
    | frame payload =>
        simp only [Event.outcome?] at given
        split at given <;> cases given
    | fire number => exact other number rfl
    | close => cases given
    | measure | advance | dropMeasurement | takeQueued | dropOutbound => cases given
  refine ⟨m.progress.deliver outcome, ?_, Progress.deliver_ne_pending outcome m.progress, ?_⟩
  · rw [progress?, getElem?_act_of_entry sound member present, measured, given]
    rfl
  · rw [awaits]
    cases m.held
    · simp [Progress.deliver]
    · simpa [Progress.deliver] using inTime

/-- A measurement that times out is that of a request that lapses. -/
theorem lapse_of_timeout (sound : i.Sound) (member : entry ∈ i.ledger.table.entries)
    {events : List Event}
    (timeout : (i.course events).progress? entry.slot = some (.settled (.failed .timeout))) :
    ∃ time, (entry, time) ∈ i.lapses events := by
  induction events generalizing i with
  | nil =>
      obtain ⟨m, present, -, awaits⟩ := sound.ledger.awaited entry member
      have known : i.progress? entry.slot = some m.progress := by
        rw [progress?, measurements, present]
        rfl
      have both := Option.some.inj (known.symm.trans timeout)
      rw [awaits] at both
      split at both <;> cases both
  | cons event events ih =>
      by_cases stays : entry ∈ (i.tick event).ledger.table.entries
      · obtain ⟨time, lapse⟩ := ih (sound_tick sound event) stays timeout
        exact ⟨time, List.mem_append_right _ lapse⟩
      · by_cases turn : ∃ number, event = .fire number
        · obtain ⟨number, rfl⟩ := turn
          have lapsed : entry ∈ i.lapsed (.fire number) :=
            List.mem_filter.mpr ⟨member, by simpa using stays⟩
          exact ⟨i.clock, List.mem_append_left _ (List.mem_map.mpr ⟨entry, lapsed, rfl⟩)⟩
        · have other : ∀ number, event ≠ .fire number := fun number same => turn ⟨number, same⟩
          have same : (i.tick event).ledger = (i.act event).ledger :=
            (ledger_tick sound event).resolve_right fun quiet => turn quiet.1
          rw [same] at stays
          obtain ⟨progress, known, notPending, inTime⟩ := settled_in_time sound member other stays
          have known' : (i.tick event).progress? entry.slot = some progress := by
            rw [progress?, measurements, same]
            exact known
          have final :=
            progress?_course_of_ne_pending (sound_tick sound event) known' notPending events
          exact absurd (Option.some.inj (final.symm.trans timeout)) inTime

/-! ## A request that is due -/

/-- No turn of its task leaves a request that is due. -/
theorem out_of_due (sound : i.Sound) {number : Nat} (own : entry.deadline = some number)
    (due : ∀ d, i.deadlines.find? number = some d →
      d.due.getD (i.deadlines.now + d.wait) ≤ i.deadlines.now) :
    entry ∉ (i.tick (.fire number)).ledger.table.entries := by
  by_cases member : entry ∈ i.ledger.table.entries
  · obtain ⟨_, d, same, found, armed⟩ := sound.find?_deadline member
    obtain rfl := Option.some.inj (own.symm.trans same)
    have ready := (d.isDue_start i.deadlines.now).mpr ⟨armed, due d found⟩
    have up : i.deadlines.isShutDown = false := by
      rw [sound.isShutDown, Bool.eq_false_iff]
      intro closed
      rw [sound.ledger.closed closed] at member
      cases member
    rcases turn_cases sound number false with ⟨turned, -⟩ | ⟨quiet, -⟩
    · rw [tick, turned, entries_act sound (.fire number), List.mem_append, not_or]
      constructor
      · simp [Event.settles, Event.outcome?, own]
      · simp [made?_eq_none sound (.fire number) (by simp)]
    · simp [Deadlines.turn, found, Deadline.turn, ready, up] at quiet
  · rcases ledger_tick sound (.fire number) with same | ⟨-, same⟩
    · rw [same, entries_act sound (.fire number), made?_eq_none sound (.fire number) (by simp)]
      simpa using fun held => absurd held member
    · rwa [same]

/-! ## A request that was made -/

section Made

variable (sound : i.Sound) {draws : List CorrelationId}
  (made : made? i (i.measure draws) = some entry)
include sound made

theorem deadlines_of_made :
    entry.deadline = some i.deadlines.scheduled ∧
      (i.measure draws).deadlines = i.deadlines.act (.schedule i.timeout entry.id) := by
  rcases made?_measure sound draws with ⟨failed, -⟩ | ⟨id, requested, -, same⟩
  · rw [failed] at made
    cases made
  · obtain rfl := Option.some.inj (made.symm.trans requested)
    exact ⟨rfl, by rw [same, deadlines_send]; rfl⟩

theorem given_of_made : (i.measure draws).deadlines.Given i.deadlines.scheduled := by
  rw [(deadlines_of_made sound made).2]
  exact Deadlines.given_schedule sound.numbered i.timeout entry.id

/-- A request times out no sooner than a sleep of its timeout after it was sent. -/
theorem time_of_lapse {events : List Event} {time : Nat}
    (lapse : (entry, time) ∈ (i.measure draws).lapses events) :
    entry.sentAt + Deadline.sleep i.deadlines.longest i.timeout ≤ time := by
  have asked : (i.measure draws).Sound := sound_measure sound draws
  obtain ⟨own, deadlines⟩ := deadlines_of_made sound made
  have given := given_of_made sound made
  obtain ⟨first, event, -, -, lapsed, rfl⟩ := lapse_split lapse
  obtain ⟨-, -, number, d, -, same, found, due⟩ := lapsed_cases (sound_course asked first) lapsed
  obtain rfl := Option.some.inj (own.symm.trans same)
  obtain ⟨steps, reached, -⟩ := deadlines_course asked first
  -- The delay began after the request was sent.
  have waits := Deadlines.waits_of_unturned sound.numbered i.timeout entry.id
    fun _ => List.not_mem_nil
  have began : ((i.deadlines.act (.schedule i.timeout entry.id)).run []).now = i.deadlines.now :=
    (congrArg (·.now) deadlines).symm.trans (tick_frame sound (.measure draws)).2.2
  rw [began] at waits
  have later := Deadlines.waits_run given (deadlines ▸ waits) steps
  rw [← reached] at later
  have bound := later.le_of_isDue found due
  obtain ⟨-, clock, now⟩ := course_frame asked first
  have sent : entry.sentAt = i.clock := (measure_made sound made).1
  have clock' : (i.measure draws).clock = i.clock := (tick_frame sound (.measure draws)).2.1
  have now' : (i.measure draws).deadlines.now = i.deadlines.now :=
    (tick_frame sound (.measure draws)).2.2
  omega

/-- When a sleep of its timeout has passed since the first turn of its task, the next one leaves no
request. -/
theorem out_once_due {first mid : List Event}
    (unturned : .fire i.deadlines.scheduled ∉ first)
    (passed : ((i.measure draws).course first).clock +
        Deadline.sleep i.deadlines.longest i.timeout ≤
      ((i.measure draws).course (first ++ .fire i.deadlines.scheduled :: mid)).clock) :
    entry ∉ ((i.measure draws).course (first ++ .fire i.deadlines.scheduled :: mid ++
      [.fire i.deadlines.scheduled])).ledger.table.entries := by
  have asked : (i.measure draws).Sound := sound_measure sound draws
  obtain ⟨own, deadlines⟩ := deadlines_of_made sound made
  have begins := sound_course asked first
  have turned := sound_tick begins (.fire i.deadlines.scheduled)
  obtain ⟨steps, reached, turns⟩ := deadlines_course asked first
  obtain ⟨rest, ends, -⟩ := deadlines_course turned mid
  -- The first turn begins the delay, and the turns between do not change when it ends.
  have turn : (((i.measure draws).course first).tick (.fire i.deadlines.scheduled)).deadlines =
      (i.measure draws).deadlines.run (steps ++ [.turn i.deadlines.scheduled false]) := by
    rw [tick, deadlines_turn, reached, Deadlines.run_append]
    rfl
  have given := (given_of_made sound made).run (steps ++ [.turn i.deadlines.scheduled false])
  have begun := Deadlines.due_of_first_turn sound.numbered i.timeout entry.id
    (fun eager member => unturned (turns _ eager member)) false
  rw [← deadlines, ← turn, ← reached] at begun
  rw [← turn] at given
  rw [course_append] at passed
  rw [course_append, course_append]
  refine out_of_due (sound_course turned mid) own fun d found => ?_
  have due := Deadlines.due_run given begun rest d (ends ▸ found)
  obtain ⟨-, clock, now⟩ := course_frame turned mid
  obtain ⟨-, clock', now'⟩ := tick_frame begins (.fire i.deadlines.scheduled)
  have none : (Event.fire i.deadlines.scheduled).nanos = 0 := rfl
  generalize (i.measure draws).course first = start at passed due clock now clock' now' ⊢
  have passed : start.clock + Deadline.sleep i.deadlines.longest i.timeout ≤
      ((start.tick (.fire i.deadlines.scheduled)).course mid).clock := passed
  show d.due.getD _ ≤ ((start.tick (.fire i.deadlines.scheduled)).course mid).deadlines.now
  rw [due, Option.getD_some]
  omega

end Made

/-! ## A reply -/

/-- A reply settles the request that it names, and no other. -/
theorem onFrame_of_named (sound : i.Sound) {id : CorrelationId} {payload : Bytes}
    (named : Word.littleEndian id <+: payload) :
    (∃ entry ∈ i.ledger.table.entries, entry.id = id ∧
      entry ∉ (i.act (.frame payload)).ledger.table.entries ∧
      (i.onFrame payload).1 = .ok (Clock.elapsed entry.sentAt i.clock)) ∨
    ((∀ entry ∈ i.ledger.table.entries, entry.id ≠ id) ∧
      i.onFrame payload = (.error (.violation id),
        { i with tally := (i.tally.frameReceived payload.length).violation })) := by
  rcases onFrame_cases sound payload with
    ⟨short, -⟩ | ⟨other, alsoNamed, unknown, same⟩ | ⟨entry, member, alsoNamed, same⟩
  · have length := named.length_le
    rw [Word.length_littleEndian] at length
    exact absurd short (Nat.not_lt_of_le length)
  · rw [CorrelationId.eq_of_prefix named alsoNamed]
    exact .inr ⟨unknown, same⟩
  · refine .inl ⟨entry, member, CorrelationId.eq_of_prefix alsoNamed named, ?_, by rw [same]⟩
    rw [act, same]
    simp [Ledger.strike, Outstanding.mem_erase]

/-- The frame that answers a request takes it out of the table. -/
theorem gone_of_frame (sound : i.Sound) (member : entry ∈ i.ledger.table.entries) {payload : Bytes}
    (named : Word.littleEndian entry.id <+: payload) :
    (i.onFrame payload).1 = .ok (Clock.elapsed entry.sentAt i.clock) ∧
      (i.tick (.frame payload)).Gone entry := by
  rcases onFrame_of_named sound named with ⟨other, held, own, left, answer⟩ | ⟨unknown, -⟩
  · obtain rfl := List.inj_on_of_nodup_map sound.ledger.distinct held member own
    exact ⟨answer, gone_of_left sound member left⟩
  · exact absurd rfl (unknown entry member)

/-- An initiator at its start, on a runtime with this longest sleep. -/
def startWithin (longest : Option Nat) (uploadSize timeout clock : Nat) : Initiator :=
  { start uploadSize timeout clock with deadlines := { longest } }

theorem sound_startWithin (longest : Option Nat) (uploadSize timeout clock : Nat) :
    (startWithin longest uploadSize timeout clock).Sound := by
  have sound := sound_start uploadSize timeout clock
  exact ⟨sound.ledger, Deadlines.numbered_empty longest, sound.covered, sound.shutdowns⟩

/-- On one time line, and where no sleep ends early, a request times out no sooner than its timeout
after it was sent, and it is outstanding no more when its timeout has passed since its task had its
first turn and the task gets another one. What a poll leaves is due later. Whether a task sees a
shutdown first makes no difference, and a poll is a turn for every task. A request that was
answered does not time out, whatever follows and whoever draws its id again. A reply that comes
after the timeout is a violation and leaves all requests as they are. -/
theorem punctual (longest : Option Nat) (uploadSize timeout clock : Nat)
    (notEarly : timeout ≤ Deadline.sleep longest timeout) (before : List Event)
    (draws : List CorrelationId) {entry : Entry}
    (made : made? ((startWithin longest uploadSize timeout clock).course before)
      (((startWithin longest uploadSize timeout clock).course before).measure draws) =
        some entry) :
    let asked := ((startWithin longest uploadSize timeout clock).course before).measure draws
    -- Not too early, and whoever times out is counted,
    (∀ events time, (entry, time) ∈ asked.lapses events → entry.sentAt + timeout ≤ time) ∧
    (∀ events, (asked.course events).progress? entry.slot = some (.settled (.failed .timeout)) →
      ∃ time, (entry, time) ∈ asked.lapses events) ∧
    (∀ events, (asked.course events).tally.timeouts =
      asked.tally.timeouts + UInt64.ofNat (asked.lapses events).length) ∧
    -- not too late,
    (∀ number first mid, entry.deadline = some number → .fire number ∉ first →
      (asked.course first).clock + timeout ≤ (asked.course (first ++ .fire number :: mid)).clock →
      entry ∉
        (asked.course (first ++ .fire number :: mid ++ [.fire number])).ledger.table.entries) ∧
    (∀ events, ∀ other ∈ (asked.course events).poll.ledger.table.entries, ∃ due,
      (asked.course events).poll.dueAt? other = some due ∧
        (asked.course events).deadlines.now < due) ∧
    -- whichever a task sees first, a shutdown or the end of its delay, and whether it gets its turn
    -- alone or with all others,
    (∀ events number eager,
      (asked.course events).turn number eager = asked.course (events ++ [.fire number])) ∧
    (∀ events, (asked.course events).isClosed = false →
      (asked.course events).poll =
        asked.course (events ++ (asked.course events).deadlines.held.map (.fire ·.number))) ∧
    -- not after an answer,
    (∀ first payload later, entry ∈ (asked.course first).ledger.table.entries →
      Word.littleEndian entry.id <+: payload →
      ((asked.course first).onFrame payload).1 =
          .ok (Clock.elapsed entry.sentAt (asked.course first).clock) ∧
        (∀ time, (entry, time) ∉ asked.lapses (first ++ .frame payload :: later)) ∧
        (asked.course (first ++ .frame payload :: later)).progress? entry.slot ≠
          some (.settled (.failed .timeout))) ∧
    -- and no answer after it.
    (∀ events time payload, (entry, time) ∈ asked.lapses events →
      (∀ other ∈ (asked.course events).ledger.table.entries, other.id = entry.id → other = entry) →
      Word.littleEndian entry.id <+: payload →
      (asked.course events).onFrame payload = (.error (.violation entry.id),
        { asked.course events with
          tally := ((asked.course events).tally.frameReceived payload.length).violation })) := by
  intro asked
  have soundStart := sound_startWithin longest uploadSize timeout clock
  have soundEarlier := sound_course soundStart before
  have sound : asked.Sound := sound_measure soundEarlier draws
  have member : entry ∈ asked.ledger.table.entries := (measure_made soundEarlier made).2.1
  -- The timeout and the runtime stay as they were at the start, and a sleep is as long as it is.
  have wait : Deadline.sleep
      ((startWithin longest uploadSize timeout clock).course before).deadlines.longest
      ((startWithin longest uploadSize timeout clock).course before).timeout = timeout := by
    obtain ⟨steps, reached, -⟩ := deadlines_course soundStart before
    rw [(course_frame soundStart before).1, reached, Deadlines.longest_run]
    exact Nat.le_antisymm (Deadline.sleep_le longest timeout) notEarly
  refine ⟨fun events time lapse => ?_, fun events => lapse_of_timeout sound member,
    timeouts_course sound, fun number first mid own unturned passed => ?_,
    fun events other left => due_of_poll (sound_course sound events) left,
    fun events number eager => ?_, fun events isOpen => ?_,
    fun first payload later held named => ?_, fun events time payload lapse alone named => ?_⟩
  · have late := time_of_lapse soundEarlier made lapse
    rwa [wait] at late
  · obtain rfl := Option.some.inj ((deadlines_of_made soundEarlier made).1.symm.trans own)
    exact out_once_due soundEarlier made unturned (wait.symm ▸ passed)
  · rw [course_append]
    exact turn_eager (sound_course sound events) number eager
  · rw [course_append]
    exact poll_eq_course (sound_course sound events) isOpen
  · have soundFirst := sound_course sound first
    obtain ⟨answer, gone⟩ := gone_of_frame soundFirst held named
    have kept (time : Nat) : (entry, time) ∉ asked.lapses (first ++ .frame payload :: later) := by
      rw [lapses_append, List.mem_append, not_or]
      refine ⟨fun lapse => out_of_lapse sound lapse held, ?_⟩
      exact not_lapsed_of_gone (sound_tick soundFirst _) gone later time
    refine ⟨answer, kept, fun settled => ?_⟩
    obtain ⟨time, lapse⟩ := lapse_of_timeout sound member settled
    exact kept time lapse
  · have out := out_of_lapse sound lapse
    rcases onFrame_of_named (sound_course sound events) named with
      ⟨other, held, own, -, -⟩ | ⟨-, violation⟩
    · rw [alone other held own] at held
      exact absurd held out
    · exact violation

/-- The second of two requests times out five nanoseconds after it was sent, and its reply comes
too late. Had it been answered sooner, its deadline would never find it, nor the request that draws
its id again. -/
theorem punctual_second :
    let earlier := (startWithin (some 5) 4 5 100).course [.measure [9], .fire 0, .advance 2]
    let asked := earlier.measure [9, 7]
    let entry : Entry := ⟨7, 102, 1, some 1⟩
    5 ≤ Deadline.sleep (some 5) 5 ∧
    made? earlier asked = some entry ∧
    102 + 5 ≤ 107 ∧
    entry ∉ (asked.course [.fire 1, .advance 5, .fire 1]).ledger.table.entries ∧
    (∀ time, (entry, time) ∉ asked.lapses [.fire 1, .advance 4, .frame [7, 0, 0, 0], .measure [7],
      .fire 2, .advance 100, .fire 1, .fire 2]) ∧
    ((asked.course [.fire 1, .advance 5, .fire 1]).onFrame [7, 0, 0, 0]).1 =
      .error (.violation 7) := by
  intro earlier asked entry
  have made : made? earlier asked = some entry := by decide
  obtain ⟨early, -, -, late, -, -, -, answered, violation⟩ :=
    punctual (some 5) 4 5 100 (Nat.le_refl 5) _ _ made
  have lapse : (entry, 107) ∈ asked.lapses [.fire 1, .advance 5, .fire 1] := by decide
  refine ⟨Nat.le_refl 5, made, early _ 107 lapse, late 1 [] [.advance 5] rfl (by decide) (by decide),
    (answered [.fire 1, .advance 4] [7, 0, 0, 0] _ (by decide) (by decide)).2.1, ?_⟩
  rw [violation _ 107 [7, 0, 0, 0] lapse (by decide) (by decide)]

end Initiator

end RoundTrip
