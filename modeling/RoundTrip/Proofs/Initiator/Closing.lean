import RoundTrip.Proofs.Initiator.Settling

/-!
# What closing does

Closing is final: an initiator that is closed stays closed (`isClosed_act`), and
nothing can be done with it any more (`ended_of_closed`).

Main result: the first closing settles all that is outstanding, and after it there
is nothing that any number of events could change (`close_is_final`).
-/

namespace RoundTrip

namespace Initiator

/-- Nothing is outstanding, and nothing will be: requests fail and have no id, frames
are refused, and deadlines that come all the same do nothing. -/
structure Ended (i : Initiator) : Prop where
  empty : i.ledger.table.entries = []
  disarmed : i.deadlines.armed = []
  shutdowns : i.deadlines.shutdowns = 1
  onClose : i.onClose = (0, i)
  measure : ∀ draws, i.measure draws =
    { i with ledger.measurements := i.measurements ++ [⟨none, .settled (.failed .closed), true⟩] }
  onFrame : ∀ payload,
    ((i.onFrame payload).1 = .error (.noPrefixIn payload.length) ∧ payload.length < 4 ∨
      ∃ id, (i.onFrame payload).1 = .error (.violation id) ∧ Word.littleEndian id <+: payload) ∧
    (i.onFrame payload).2.ledger = i.ledger
  expire : ∀ id, i.expire id = i

/-! ## Closed for ever -/

/-- Only closing closes, and nothing opens again. -/
theorem isClosed_act {i : Initiator} (sound : i.Sound) (event : Event) :
    (i.act event).isClosed = (i.isClosed || event = .close) := by
  by_cases close : event = .close
  · subst close
    rw [act, onClose_eq sound]
    cases closed : i.isClosed with
    | true => exact closed
    | false => rfl
  · have change := change_act sound event
    unfold isClosed
    generalize (i.act event).ledger = after at change ⊢
    cases change with
    | drained => exact absurd rfl close
    | kept | refused | entered | struck | dropped => simp [close, Ledger.fail, Ledger.enter,
        Ledger.strike, Ledger.dropMeasurement, Outstanding.insert, Outstanding.erase]

theorem isClosed_run {i : Initiator} (sound : i.Sound) (events : List Event) :
    (i.run events).isClosed = (i.isClosed || .close ∈ events) := by
  induction events generalizing i with
  | nil => simp [run]
  | cons event events ih =>
      show ((i.act event).run events).isClosed = _
      rw [ih (sound_act sound event), isClosed_act sound event]
      by_cases close : event = .close <;> simp [close, eq_comm]

theorem ended_of_closed {i : Initiator} (sound : i.Sound) (closed : i.isClosed = true) :
    i.Ended := by
  have empty : i.ledger.table.entries = [] := sound.ledger.closed closed
  constructor
  · exact empty
  · have covered := sound.covered
    rw [empty] at covered
    exact List.map_eq_nil_iff.mp covered
  · rw [sound.shutdowns, closed]
    rfl
  · rw [Initiator.onClose_eq sound, closed]
    rfl
  · intro draws
    exact measure_of_closed closed draws
  · intro payload
    rcases onFrame_cases sound payload with
      ⟨short, same⟩ | ⟨id, named, -, same⟩ | ⟨entry, member, -, -⟩
    · rw [same]
      exact ⟨.inl ⟨rfl, short⟩, rfl⟩
    · rw [same]
      exact ⟨.inr ⟨id, rfl, named⟩, rfl⟩
    · exact absurd (empty ▸ member) List.not_mem_nil
  · intro id
    have unknown : i.ledger.table.find? id = none := by
      rw [Outstanding.find?_eq_none_iff, empty]
      exact fun entry member => absurd member List.not_mem_nil
    unfold Initiator.expire
    rw [Ledger.expire?_eq, unknown]
    rfl

theorem timeouts_act_of_closed {i : Initiator} (sound : i.Sound) (closed : i.isClosed = true)
    (event : Event) : (i.act event).tally.timeouts = i.tally.timeouts := by
  have ended := ended_of_closed sound closed
  cases event with
  | measure draws => rw [act, ended.measure draws]
  | frame payload =>
      rcases onFrame_cases sound payload with ⟨-, same⟩ | ⟨_, -, -, same⟩ | ⟨_, -, -, same⟩ <;>
        rw [act, same] <;> rfl
  | fire number =>
      rcases fire_cases sound number with ⟨-, same⟩ | ⟨entry, member, -, -⟩
      · rw [act, same]
      · exact absurd (ended.empty ▸ member) List.not_mem_nil
  | close => rw [act, ended.onClose]
  | advance | dropMeasurement | takeQueued | dropOutbound => rfl

/-- Once it is closed, an initiator keeps every result that it has given. -/
theorem keeps_run_of_closed {i : Initiator} (sound : i.Sound) (closed : i.isClosed = true)
    (events : List Event) :
    (i.run events).tally.timeouts = i.tally.timeouts ∧
      ∀ slot progress, i.progress? slot = some progress →
        (i.run events).progress? slot = some progress := by
  induction events generalizing i with
  | nil => exact ⟨rfl, fun _ _ known => known⟩
  | cons event events ih =>
      have still : (i.act event).isClosed = true := by
        rw [isClosed_act sound event, closed, Bool.true_or]
      obtain ⟨timeouts, keeps⟩ := ih (sound_act sound event) still
      refine ⟨timeouts.trans (timeouts_act_of_closed sound closed event), ?_⟩
      intro slot progress known
      apply keeps slot progress
      refine progress?_act_of_no_entry sound ?_ known event
      rw [(ended_of_closed sound closed).empty]
      exact fun entry member => absurd member List.not_mem_nil

/-! ## The first closing -/

/-- Every deadline that is armed belongs to an entry, so that closing cancels it. -/
theorem cancelled_onClose {i : Initiator} (sound : i.Sound) (isOpen : i.isClosed = false)
    {d : Deadline CorrelationId} (armed : d ∈ i.deadlines.armed) :
    { d with cancelled := true } ∈ i.onClose.2.deadlines.held := by
  have held : d ∈ i.deadlines.held := (List.mem_filter.mp armed).1
  have named : (d.action, some d.number) ∈ i.deadlines.armedFor := List.mem_map_of_mem armed
  obtain ⟨entry, member, -, same⟩ := sound.entry_of_armed named
  have listed : some d.number ∈ i.ledger.table.entries.map (·.deadline) :=
    List.mem_map.mpr ⟨entry, member, same⟩
  rw [onClose_eq sound, isOpen]
  show _ ∈ (i.deadlines.cancelAll _).held
  rw [Deadlines.held_cancelAll]
  exact List.mem_map.mpr ⟨d, held, if_pos listed⟩

theorem progress?_onClose {i : Initiator} (sound : i.Sound) {slot : Nat}
    (pending : i.progress? slot = some .pending) :
    i.onClose.2.progress? slot = some (.settled (.failed .closed)) := by
  obtain ⟨m, present, waits⟩ := Option.map_eq_some_iff.mp pending
  obtain ⟨entry, member, rfl⟩ := sound.ledger.waiting slot m present waits
  show (i.act .close).progress? entry.slot = _
  rw [progress?, getElem?_act_of_entry sound member present, measured, Event.outcome?]
  simp [Measurement.deliver, waits, Progress.deliver]

/-- The first closing fails all requests that are outstanding, says how many they
were, and cancels their deadlines. Whatever happens after it, the initiator has ended:
the deadlines have been shut down once, nothing can be asked or answered, and no
result changes. -/
theorem close_is_final (uploadSize timeout clock : Nat) {before : List Event}
    (first : .close ∉ before) :
    let i := (start uploadSize timeout clock).run before
    let closed := i.onClose.2
    i.onClose.1 = i.pendingCount ∧
    i.deadlines.shutdowns = 0 ∧
    (∀ d ∈ i.deadlines.armed, { d with cancelled := true } ∈ closed.deadlines.held) ∧
    (∀ slot, i.progress? slot = some .pending →
      closed.progress? slot = some (.settled (.failed .closed))) ∧
    ∀ later, (closed.run later).Ended ∧
      (closed.run later).tally.timeouts = i.tally.timeouts ∧
      ∀ slot progress, closed.progress? slot = some progress →
        (closed.run later).progress? slot = some progress := by
  intro i closed
  have sound : i.Sound := sound_run (sound_start uploadSize timeout clock) before
  have isOpen : i.isClosed = false := by
    rw [isClosed_run (sound_start uploadSize timeout clock), decide_eq_false first]
    rfl
  have soundClosed : closed.Sound := sound_onClose sound
  have shut : closed.isClosed = true := by
    have closes := isClosed_act sound .close
    rwa [isOpen] at closes
  have closing := onClose_eq sound
  rw [isOpen, if_neg Bool.false_ne_true] at closing
  refine ⟨congrArg Prod.fst closing, ?_, ?_, ?_, ?_⟩
  · rw [sound.shutdowns, isOpen]
    rfl
  · intro d armed
    exact cancelled_onClose sound isOpen armed
  · intro slot pending
    exact progress?_onClose sound pending
  · intro later
    have still : (closed.run later).isClosed = true := by
      rw [isClosed_run soundClosed, shut, Bool.true_or]
    obtain ⟨timeouts, keeps⟩ := keeps_run_of_closed soundClosed shut later
    refine ⟨ended_of_closed (sound_run soundClosed later) still, ?_, keeps⟩
    rw [timeouts]
    exact congrArg (·.2.tally.timeouts) closing

/-- Of three requests one is answered, one is dropped and one is outstanding when the
connection closes, and the events after it settle nothing more. -/
theorem close_is_final_one_left :
    let before : List Event := [.measure [7], .measure [8], .measure [9], .frame [7, 0, 0, 0],
      .dropMeasurement 1]
    let later : List Event := [.frame [9, 0, 0, 0], .fire 2, .measure [5], .close]
    let i := (start 4 5 100).run before
    .close ∉ before ∧ i.onClose.1 = 2 ∧ i.progress? 2 = some .pending ∧
      (i.onClose.2.run later).progress? 2 = some (.settled (.failed .closed)) ∧
      (i.onClose.2.run later).Ended := by
  intro before later i
  have first : .close ∉ before := by decide
  obtain ⟨count, -, -, settles, ended⟩ := close_is_final 4 5 100 first
  have pending : i.progress? 2 = some .pending := by decide
  obtain ⟨final, -, keeps⟩ := ended later
  refine ⟨first, count.trans (by decide), pending, ?_, final⟩
  exact keeps 2 _ (settles 2 pending)

end Initiator

end RoundTrip
