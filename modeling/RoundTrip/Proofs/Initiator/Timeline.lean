import RoundTrip.Proofs.Deadlines.Contract
import RoundTrip.Proofs.Initiator.History
import RoundTrip.Proofs.Initiator.Polling

/-!
# One time line

On one time line the round trips and the deadlines see the same time pass, and a deadline is no
longer run by hand: its task gets a turn, and fires if its delay is over (`Initiator.turn`). Events
are the same, but now `advance` moves both clocks and `fire` is such a turn (`Initiator.tick`). Each
event and each turn is over before the next one begins.

A turn in which nothing runs leaves all but the deadlines as it is, and any other is the event of
that deadline (`turn_cases`). Whether a task sees a shutdown first makes no difference
(`turn_eager`), and polling is a turn for every task (`poll_eq_course`). Requests that time out are
those that such a turn takes out of the table (`lapsed_cases`), and each is counted
(`timeouts_course`).
-/

namespace RoundTrip

namespace Initiator

/-- The task of a deadline gets a turn. -/
def turn (number : Nat) (eager : Bool) (i : Initiator) : Initiator :=
  match i.deadlines.turn number eager with
  | (none, deadlines) => { i with deadlines }
  | (some id, deadlines) => expire { i with deadlines } id

/-- An event on one time line. -/
def tick (i : Initiator) : Event → Initiator
  | .fire number => i.turn number false
  | .advance nanos => (i.advanceClock nanos).advanceDeadlines nanos
  | .measure draws => i.act (.measure draws)
  | .frame payload => i.act (.frame payload)
  | .close => i.act .close
  | .dropMeasurement slot => i.act (.dropMeasurement slot)
  | .takeQueued => i.act .takeQueued
  | .dropOutbound => i.act .dropOutbound

def course (i : Initiator) (events : List Event) : Initiator := events.foldl tick i

/-- The requests that time out. -/
def lapsed (i : Initiator) : Event → List Entry
  | .fire number =>
      i.ledger.table.entries.filter (· ∉ (i.tick (.fire number)).ledger.table.entries)
  | .measure _ | .frame _ | .close | .advance _ | .dropMeasurement _ | .takeQueued
  | .dropOutbound => []

/-- The requests that time out, each with the time at which it does. -/
def lapses (i : Initiator) : List Event → List (Entry × Nat)
  | [] => []
  | event :: events => (i.lapsed event).map (·, i.clock) ++ (i.tick event).lapses events

/-- When a request is due, once its delay has begun. -/
def dueAt? (entry : Entry) (i : Initiator) : Option Nat :=
  (entry.deadline.bind fun number => i.deadlines.find? number).bind (·.due)

variable {i : Initiator}

theorem course_append (i : Initiator) (first later : List Event) :
    i.course (first ++ later) = (i.course first).course later :=
  List.foldl_append

theorem lapses_append (i : Initiator) (first later : List Event) :
    i.lapses (first ++ later) = i.lapses first ++ (i.course first).lapses later := by
  induction first generalizing i with
  | nil => rfl
  | cons event first ih =>
      rw [List.cons_append, lapses, lapses, ih, List.append_assoc]
      rfl

/-! ## A turn -/

/-- A task whose delay is over fires. Any other turn is for the deadlines alone. -/
theorem turn_cases (sound : i.Sound) (number : Nat) (eager : Bool) :
    (i.turn number eager = i.act (.fire number) ∧ ∃ d, i.deadlines.find? number = some d ∧
      (d.start i.deadlines.now).isDue i.deadlines.now = true) ∨
    ((i.deadlines.turn number eager).1 = none ∧
      i.turn number eager = { i with deadlines := (i.deadlines.turn number eager).2 }) := by
  cases turned : i.deadlines.turn number eager with
  | mk action deadlines =>
      cases action with
      | none => exact .inr ⟨rfl, by simp only [turn, turned]⟩
      | some id =>
          have ran : (i.deadlines.turn number eager).1 = some id := congrArg Prod.fst turned
          obtain ⟨taken, left⟩ := Deadlines.take_of_turn sound.numbered ran
          have same : i.deadlines.take number = (some id, deadlines) :=
            Prod.ext taken (left.symm.trans (congrArg Prod.snd turned))
          refine .inl ⟨by simp only [turn, turned, act, fire, same], ?_⟩
          obtain ⟨d, found, runs⟩ := Option.bind_eq_some_iff.mp ran
          refine ⟨d, found, ?_⟩
          rcases d.turn_cases i.deadlines.now i.deadlines.isShutDown eager with
            ⟨-, due, -⟩ | ⟨ended, -⟩ | ⟨stayed, -⟩
          · exact due
          · simp [ended] at runs
          · simp [stayed] at runs

/-- After a shutdown there is no request left for a task to find. -/
theorem turn_eager (sound : i.Sound) (number : Nat) (eager : Bool) :
    i.turn number eager = i.turn number false := by
  cases down : i.deadlines.isShutDown with
  | false =>
      have same : i.deadlines.turn number eager = i.deadlines.turn number false := by
        simp [Deadlines.turn, Deadline.turn, down]
      simp only [turn, same]
  | true =>
      have empty : i.ledger.table.entries = [] :=
        sound.ledger.closed (sound.isShutDown.symm.trans down)
      have left (eager : Bool) :
          i.turn number eager = { i with deadlines := (i.deadlines.turn number eager).2 } := by
        cases turned : i.deadlines.turn number eager with
        | mk action deadlines =>
            cases action with
            | none => simp only [turn, turned]
            | some id => simp [turn, turned, expire, Ledger.expire?_eq, Outstanding.find?, empty]
      rw [left, left, Deadlines.turn_of_shutDown down, Deadlines.turn_of_shutDown down]

theorem sound_turn (sound : i.Sound) (number : Nat) (eager : Bool) :
    (i.turn number eager).Sound := by
  rcases turn_cases sound number eager with ⟨same, -⟩ | ⟨quiet, same⟩
  · rw [same]
    exact sound_act sound (.fire number)
  · rw [same]
    refine ⟨sound.ledger, Deadlines.numbered_act sound.numbered (.turn number eager), ?_,
      sound.shutdowns⟩
    cases down : i.deadlines.isShutDown with
    | false => exact (Deadlines.armedFor_of_quiet sound.numbered down quiet).trans sound.covered
    | true =>
        have empty := sound.ledger.closed (sound.isShutDown.symm.trans down)
        have before : i.deadlines.armedFor = [] := by rw [sound.covered, empty]; rfl
        show (i.deadlines.turn number eager).2.armedFor = _
        rw [Deadlines.turn_of_shutDown down, Deadlines.armedFor_take, before, empty]
        rfl

theorem sound_tick (sound : i.Sound) (event : Event) : (i.tick event).Sound := by
  cases event with
  | fire number => exact sound_turn sound number false
  | advance nanos => exact sound_advanceDeadlines (sound_act sound (.advance nanos)) nanos
  | measure draws => exact sound_act sound (.measure draws)
  | frame payload => exact sound_act sound (.frame payload)
  | close => exact sound_act sound .close
  | dropMeasurement slot => exact sound_act sound (.dropMeasurement slot)
  | takeQueued => exact sound_act sound .takeQueued
  | dropOutbound => exact sound_act sound .dropOutbound

theorem sound_course (sound : i.Sound) (events : List Event) : (i.course events).Sound := by
  induction events generalizing i with
  | nil => exact sound
  | cons event events ih => exact ih (sound_tick sound event)

/-- The ledger sees the event, unless it is a turn in which nothing runs. -/
theorem ledger_tick (sound : i.Sound) (event : Event) :
    (i.tick event).ledger = (i.act event).ledger ∨
      (∃ number, event = .fire number) ∧ (i.tick event).ledger = i.ledger := by
  cases event with
  | fire number =>
      rcases turn_cases sound number false with ⟨same, -⟩ | ⟨-, same⟩
      · exact .inl (congrArg (·.ledger) same)
      · exact .inr ⟨⟨number, rfl⟩, congrArg (·.ledger) same⟩
  | measure | frame | close | advance | dropMeasurement | takeQueued | dropOutbound =>
      exact .inl rfl

/-! ## Time and deadlines -/

theorem deadlines_turn (number : Nat) (eager : Bool) (i : Initiator) :
    (i.turn number eager).deadlines = (i.deadlines.turn number eager).2 := by
  cases turned : i.deadlines.turn number eager with
  | mk action deadlines =>
      cases action with
      | none => simp only [turn, turned]
      | some id => simp only [turn, turned, expire_deadlines]

/-- An event is a row of steps of the deadlines, and no task gets a turn but in its own. -/
theorem deadlines_tick (sound : i.Sound) (event : Event) :
    ∃ steps, (i.tick event).deadlines = i.deadlines.run steps ∧
      ∀ number eager, .turn number eager ∈ steps → event = .fire number := by
  have cancels (named : List (Option Nat)) (number : Nat) (eager : Bool) :
      Deadlines.Step.turn (α := CorrelationId) number eager ∉ (named.filterMap id).map .cancel := by
    simp
  cases event with
  | measure draws =>
      rcases measure_cases draws i with ⟨fault, same⟩ | ⟨id, -, same⟩
      · exact ⟨[], by rw [tick, act, same]; rfl, by simp⟩
      · exact ⟨[.schedule i.timeout id], by rw [tick, act, same, deadlines_send]; rfl, by simp⟩
  | frame payload =>
      rcases onFrame_cases sound payload with ⟨-, same⟩ | ⟨_, -, -, same⟩ | ⟨entry, -, -, same⟩
      · exact ⟨[], by rw [tick, act, same]; rfl, by simp⟩
      · exact ⟨[], by rw [tick, act, same]; rfl, by simp⟩
      · refine ⟨_, ?_, fun number eager => (absurd · (cancels [entry.deadline] number eager))⟩
        rw [tick, act, same, ← Deadlines.cancelAll_eq_run]
        rfl
  | fire number =>
      exact ⟨[.turn number false], deadlines_turn number false i, by simp [eq_comm]⟩
  | close =>
      rw [tick, act, onClose_eq sound]
      cases i.isClosed with
      | true => exact ⟨[], rfl, by simp⟩
      | false =>
          refine ⟨((i.ledger.table.entries.map (·.deadline)).filterMap id).map .cancel ++
            [.shutdown], ?_, ?_⟩
          · rw [Deadlines.run_append, ← Deadlines.cancelAll_eq_run]
            rfl
          · simp
  | advance nanos => exact ⟨[.advance nanos], rfl, by simp⟩
  | dropMeasurement | takeQueued | dropOutbound => exact ⟨[], rfl, by simp⟩

theorem deadlines_course (sound : i.Sound) (events : List Event) :
    ∃ steps, (i.course events).deadlines = i.deadlines.run steps ∧
      ∀ number eager, .turn number eager ∈ steps → .fire number ∈ events := by
  induction events generalizing i with
  | nil => exact ⟨[], rfl, by simp⟩
  | cons event events ih =>
      obtain ⟨first, same, own⟩ := deadlines_tick sound event
      obtain ⟨rest, later, others⟩ := ih (sound_tick sound event)
      refine ⟨first ++ rest, ?_, fun number eager member => ?_⟩
      · rw [Deadlines.run_append, ← same]
        exact later
      · rcases List.mem_append.mp member with now | after
        · exact own number eager now ▸ List.mem_cons_self
        · exact List.mem_cons_of_mem _ (others number eager after)

/-- The timeout stays, and time passes for both clocks. -/
theorem tick_frame (sound : i.Sound) (event : Event) :
    (i.tick event).timeout = i.timeout ∧ (i.tick event).clock = i.clock + event.nanos ∧
      (i.tick event).deadlines.now = i.deadlines.now + event.nanos := by
  cases event with
  | measure draws =>
      rcases measure_cases draws i with ⟨fault, same⟩ | ⟨id, -, same⟩
      · rw [tick, act, same]
        exact ⟨rfl, rfl, rfl⟩
      · have now : (i.deadlines.schedule i.timeout id).2.now = i.deadlines.now := by
          cases up : i.deadlines.isShutDown <;> simp [Deadlines.schedule, up]
        rw [tick, act, same, deadlines_send, (send_frame id _).2.1, send]
        refine ⟨?_, rfl, now⟩
        split <;> rfl
  | frame payload =>
      rcases onFrame_cases sound payload with ⟨-, same⟩ | ⟨_, -, -, same⟩ | ⟨entry, -, -, same⟩
      · rw [tick, act, same]
        exact ⟨rfl, rfl, rfl⟩
      · rw [tick, act, same]
        exact ⟨rfl, rfl, rfl⟩
      · rw [tick, act, same]
        refine ⟨rfl, rfl, ?_⟩
        cases entry.deadline <;> rfl
  | fire number =>
      rw [tick, deadlines_turn]
      rcases turn_cases sound number false with ⟨same, -⟩ | ⟨-, same⟩
      · rw [same]
        rcases fire_cases sound number with ⟨-, fired⟩ | ⟨_, -, -, fired⟩ <;> rw [act, fired] <;>
          exact ⟨rfl, rfl, rfl⟩
      · rw [same]
        exact ⟨rfl, rfl, rfl⟩
  | close =>
      rw [tick, act, onClose_eq sound]
      cases i.isClosed with
      | true => exact ⟨rfl, rfl, rfl⟩
      | false => exact ⟨rfl, rfl, Deadlines.now_cancelAll _ i.deadlines⟩
  | advance nanos => exact ⟨rfl, rfl, rfl⟩
  | dropMeasurement | takeQueued | dropOutbound => exact ⟨rfl, rfl, rfl⟩

theorem course_frame (sound : i.Sound) (events : List Event) :
    (i.course events).timeout = i.timeout ∧ (i.course events).clock = i.clock + elapsed events ∧
      (i.course events).deadlines.now = i.deadlines.now + elapsed events := by
  induction events generalizing i with
  | nil => exact ⟨rfl, rfl, rfl⟩
  | cons event events ih =>
      obtain ⟨timeout, clock, now⟩ := tick_frame sound event
      obtain ⟨timeouts, clocks, nows⟩ := ih (sound_tick sound event)
      have passed : elapsed (event :: events) = event.nanos + elapsed events := by
        simp [elapsed]
      refine ⟨timeouts.trans timeout, ?_, ?_⟩
      · rw [passed, ← Nat.add_assoc, ← clock]
        exact clocks
      · rw [passed, ← Nat.add_assoc, ← now]
        exact nows

/-! ## Which requests time out -/

variable {entry : Entry}

/-- Each outstanding request has its own deadline, which is not cancelled. -/
theorem Sound.find?_deadline (sound : i.Sound) (member : entry ∈ i.ledger.table.entries) :
    ∃ number d, entry.deadline = some number ∧ i.deadlines.find? number = some d ∧
      d.cancelled = false := by
  obtain ⟨d, held, same⟩ := List.mem_map.mp (sound.armed member)
  obtain ⟨-, own⟩ := Prod.mk.inj same
  obtain ⟨held, kept⟩ := List.mem_filter.mp held
  exact ⟨d.number, d, own.symm, (Deadlines.find?_eq_some_iff sound.numbered).mpr ⟨held, rfl⟩,
    by simpa using kept⟩

theorem lapsed_of_quiet {number : Nat}
    (same : (i.turn number false).ledger = i.ledger) : i.lapsed (.fire number) = [] := by
  rw [lapsed, tick, same, List.filter_eq_nil_iff]
  intro entry member
  simpa using member

/-- A request times out in a turn of its own task, when its delay is over. -/
theorem lapsed_cases (sound : i.Sound) {event : Event} (lapsed : entry ∈ i.lapsed event) :
    entry ∈ i.ledger.table.entries ∧ entry ∉ (i.tick event).ledger.table.entries ∧
      ∃ number d, event = .fire number ∧ entry.deadline = some number ∧
        i.deadlines.find? number = some d ∧
        (d.start i.deadlines.now).isDue i.deadlines.now = true := by
  cases event with
  | fire number =>
      rcases turn_cases sound number false with ⟨fired, d, found, ready⟩ | ⟨-, same⟩
      · obtain ⟨member, gone⟩ := List.mem_filter.mp lapsed
        rw [decide_eq_true_eq] at gone
        refine ⟨member, gone, number, d, rfl, ?_, found, ready⟩
        rw [tick, fired, entries_act sound (.fire number), List.mem_append, not_or,
          List.mem_filter] at gone
        by_contra other
        exact gone.1 ⟨member, by simp [Event.settles, Event.outcome?, other]⟩
      · rw [lapsed_of_quiet (congrArg (·.ledger) same)] at lapsed
        cases lapsed
  | measure | frame | close | advance | dropMeasurement | takeQueued | dropOutbound =>
      exact absurd lapsed List.not_mem_nil

/-- Each of them is counted. -/
theorem timeouts_tick (sound : i.Sound) (event : Event) :
    (i.tick event).tally.timeouts = i.tally.timeouts + UInt64.ofNat (i.lapsed event).length := by
  cases event with
  | fire number =>
      rcases turn_cases sound number false with ⟨turned, -⟩ | ⟨-, same⟩
      · rw [lapsed, tick, turned]
        rcases fire_cases sound number with ⟨-, fired⟩ | ⟨entry, member, -, fired⟩
        · rw [act, fired, List.filter_eq_nil_iff.mpr fun entry member => by simpa using member]
          exact (UInt64.add_zero _).symm
        · have one : i.ledger.table.entries.filter
              (· ∉ (i.ledger.table.erase entry.id).entries) = [entry] := by
            have distinct := sound.ledger.distinct
            have found := (find?_key_eq_some_iff distinct).mpr ⟨member, rfl⟩
            have own := filter_key_eq_find? distinct entry.id
            rw [found] at own
            refine (List.filter_congr fun other held => ?_).trans own
            simp [Outstanding.mem_erase, held]
          rw [act, fired]
          show _ = _ + UInt64.ofNat (i.ledger.table.entries.filter
            (· ∉ (i.ledger.table.erase entry.id).entries)).length
          rw [one]
          rfl
      · rw [lapsed_of_quiet (congrArg (·.ledger) same), tick, same]
        exact (UInt64.add_zero _).symm
  | measure draws =>
      rcases measure_cases draws i with ⟨fault, same⟩ | ⟨id, -, same⟩ <;> rw [tick, act, same]
      · exact (UInt64.add_zero _).symm
      · rw [send]
        split <;> exact (UInt64.add_zero _).symm
  | frame payload =>
      rcases onFrame_cases sound payload with ⟨-, same⟩ | ⟨_, -, -, same⟩ | ⟨_, -, -, same⟩ <;>
        rw [tick, act, same] <;> exact (UInt64.add_zero _).symm
  | close =>
      rw [tick, act, onClose_eq sound]
      split <;> exact (UInt64.add_zero _).symm
  | advance | dropMeasurement | takeQueued | dropOutbound => exact (UInt64.add_zero _).symm

theorem timeouts_course (sound : i.Sound) (events : List Event) :
    (i.course events).tally.timeouts =
      i.tally.timeouts + UInt64.ofNat (i.lapses events).length := by
  induction events generalizing i with
  | nil => exact (UInt64.add_zero _).symm
  | cons event events ih =>
      rw [lapses, List.length_append, List.length_map, UInt64.ofNat_add, ← UInt64.add_assoc,
        ← timeouts_tick sound event]
      exact ih (sound_tick sound event)

/-- Where a request times out. -/
theorem lapse_split {events : List Event} {time : Nat} (lapse : (entry, time) ∈ i.lapses events) :
    ∃ first event later, events = first ++ event :: later ∧
      entry ∈ (i.course first).lapsed event ∧ time = (i.course first).clock := by
  induction events generalizing i with
  | nil => cases lapse
  | cons event events ih =>
      rw [lapses] at lapse
      rcases List.mem_append.mp lapse with now | later
      · obtain ⟨_, member, same⟩ := List.mem_map.mp now
        obtain ⟨rfl, rfl⟩ := Prod.mk.inj same
        exact ⟨[], event, events, rfl, member, rfl⟩
      · obtain ⟨first, next, rest, rfl, member, same⟩ := ih later
        exact ⟨event :: first, next, rest, rfl, member, same⟩

/-! ## Polling -/

theorem foldl_expire_deadlines (ids : List CorrelationId) (deadlines : Deadlines CorrelationId)
    (i : Initiator) :
    ids.foldl expire { i with deadlines } = { ids.foldl expire i with deadlines } := by
  induction ids generalizing i with
  | nil => rfl
  | cons id ids ih => rw [List.foldl_cons, expire_deadlines, ih, List.foldl_cons]

theorem course_fire (numbers : List Nat) (i : Initiator) :
    i.course (numbers.map .fire) =
      ((i.deadlines.firings (numbers.map (.turn · false))).map (·.action)).foldl expire
        { i with deadlines := i.deadlines.run (numbers.map (.turn · false)) } := by
  induction numbers generalizing i with
  | nil => rfl
  | cons number numbers ih =>
      have first : i.course ((number :: numbers).map .fire) =
          (i.turn number false).course (numbers.map .fire) := rfl
      rw [first, ih, deadlines_turn]
      cases turned : i.deadlines.turn number false with
      | mk action deadlines =>
          cases action with
          | none => simp [turn, turned, Deadlines.firings, Deadlines.firing?, Deadlines.act,
              Deadlines.run]
          | some id =>
              simp [turn, turned, Deadlines.firings, Deadlines.firing?, Deadlines.act,
                Deadlines.run, expire_deadlines]

/-- Polling is a turn for every task. -/
theorem poll_eq_course (sound : i.Sound) (isOpen : i.isClosed = false) :
    i.poll = i.course (i.deadlines.held.map (.fire ·.number)) := by
  have turns := Deadlines.poll_eq_turns sound.numbered (sound.isShutDown.trans isOpen)
  have numbers : i.deadlines.held.map (Event.fire ·.number) =
      (i.deadlines.held.map (·.number)).map .fire := by simp
  rw [numbers, course_fire, List.map_map, poll, turns]
  rfl

/-- What is still outstanding after a poll is due later. -/
theorem due_of_poll (sound : i.Sound) (member : entry ∈ i.poll.ledger.table.entries) :
    ∃ due, i.poll.dueAt? entry = some due ∧ i.deadlines.now < due := by
  have after : i.poll.Sound := by
    rw [poll_eq_run sound]
    exact sound_run (sound_beginDelays sound) _
  have same : i.poll.deadlines = i.deadlines.poll.2 := by
    simp only [poll, foldl_expire_deadlines]
  obtain ⟨number, d, own, found, armed⟩ := after.find?_deadline member
  have held : d ∈ i.deadlines.poll.2.held :=
    same ▸ ((Deadlines.find?_eq_some_iff after.numbered).mp found).1
  cases down : i.deadlines.isShutDown with
  | true =>
      -- After a shutdown nothing is outstanding, and polling does nothing.
      have quiet : i.poll = i := by simp [poll, Deadlines.poll_of_shutDown down]
      rw [quiet, sound.ledger.closed (sound.isShutDown.symm.trans down)] at member
      cases member
  | false =>
      obtain ⟨due, begun, early⟩ := Deadlines.due_of_mem_poll down held armed
      exact ⟨due, by rw [dueAt?, own, Option.bind_some, found, Option.bind_some, begun], early⟩

end Initiator

end RoundTrip
