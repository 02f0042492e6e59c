import RoundTrip.Proofs.Link.Asking.Motions

/-!
# Measurements that are dropped

Two runs of an initiator differ only in that callers drop measurements in one of them. Then one
initiator is an echo of the other (`Echoes`): they are the same but for what has become of the
measurements that were dropped. Whatever is done with both of them gives the same answers and
leaves one an echo of the other (`echoes_move`), and a drop is not heard at all
(`echoes_dropMeasurement`).

Main result: nothing but the measurements that were dropped tells that there were drops
(`drops_go_unnoticed`).
-/

namespace RoundTrip

/-- The measurement, if nobody has dropped it. A dropped one has its own id still, and the
outcome that it was given before. -/
structure Measurement.Echoes (dropped : Prop) (m whole : Measurement) : Prop where
  same : ¬ dropped → m = whole
  id : m.id = whole.id
  progress : m.progress = .dropped ∨ m.progress = whole.progress

namespace Measurement

variable {dropped : Prop} {m whole : Measurement}

theorem echoes_self (dropped : Prop) (m : Measurement) : m.Echoes dropped m :=
  ⟨fun _ => rfl, rfl, .inr rfl⟩

theorem echoes_deliver (echo : m.Echoes dropped whole) (outcome : Outcome) :
    (m.deliver outcome).Echoes dropped (whole.deliver outcome) := by
  refine ⟨fun kept => congrArg (deliver outcome) (echo.same kept), echo.id, ?_⟩
  rcases echo.progress with gone | same
  · left
    rw [deliver, gone, Progress.deliver_dropped]
  · right
    rw [deliver, deliver, same]

theorem echoes_drop {m : Measurement} (echo : m.Echoes dropped whole) (now : dropped) :
    m.drop.Echoes dropped whole := by
  refine ⟨fun kept => absurd now kept, echo.id, ?_⟩
  cases there : m.progress with
  | pending | dropped => exact .inl (by rw [drop, there]; rfl)
  | settled outcome =>
      right
      rw [drop, there]
      exact there.symm.trans (echo.progress.resolve_left (by simp [there]))

end Measurement

/-- The same table, and the same measurements but for those with these numbers. -/
structure Ledger.Echoes (dropped : Nat → Prop) (l whole : Ledger) : Prop where
  table : l.table = whole.table
  length : l.measurements.length = whole.measurements.length
  each : ∀ slot m n, l.measurements[slot]? = some m → whole.measurements[slot]? = some n →
    Measurement.Echoes (dropped slot) m n

namespace Ledger

variable {dropped : Nat → Prop} {l whole : Ledger}

theorem echoes_self (dropped : Nat → Prop) (l : Ledger) : l.Echoes dropped l := by
  refine ⟨rfl, rfl, ?_⟩
  intro slot m n present there
  obtain rfl := Option.some.inj (present.symm.trans there)
  exact Measurement.echoes_self _ m

theorem Echoes.exists_whole (echo : l.Echoes dropped whole) {slot : Nat} {m : Measurement}
    (present : l.measurements[slot]? = some m) :
    ∃ n, whole.measurements[slot]? = some n ∧ m.Echoes (dropped slot) n := by
  have within : slot < whole.measurements.length :=
    echo.length ▸ (List.getElem?_eq_some_iff.mp present).1
  have there := List.getElem?_eq_getElem within
  exact ⟨_, there, echo.each slot m _ present there⟩

theorem Echoes.getElem?_of_kept (echo : l.Echoes dropped whole) {slot : Nat}
    (kept : ¬ dropped slot) : l.measurements[slot]? = whole.measurements[slot]? := by
  cases present : l.measurements[slot]? with
  | none =>
      rw [List.getElem?_eq_none_iff, echo.length] at present
      exact (List.getElem?_eq_none present).symm
  | some m =>
      obtain ⟨n, there, heard⟩ := echo.exists_whole present
      rw [there, heard.same kept]

/-- A measurement is added to both. -/
theorem echoes_concat (echo : l.Echoes dropped whole) (table : Outstanding) (m : Measurement) :
    Echoes dropped ⟨table, l.measurements ++ [m]⟩ ⟨table, whole.measurements ++ [m]⟩ := by
  refine ⟨rfl, by simp [echo.length], ?_⟩
  intro slot n other present there
  rcases getElem?_append_one.mp present with old | ⟨rfl, rfl⟩
  · have before := (List.getElem?_eq_some_iff.mp old).1
    rcases getElem?_append_one.mp there with alsoOld | ⟨rfl, -⟩
    · exact echo.each slot n other old alsoOld
    · exact absurd before (by simp [echo.length])
  · rcases getElem?_append_one.mp there with old | ⟨-, rfl⟩
    · exact absurd (List.getElem?_eq_some_iff.mp old).1 (by simp [echo.length])
    · exact Measurement.echoes_self _ _

theorem echoes_deliver (echo : l.Echoes dropped whole) (s : Settlement) :
    (l.deliver s).Echoes dropped (whole.deliver s) := by
  refine ⟨echo.table, by simp [deliver, echo.length], ?_⟩
  intro slot m n present there
  rw [deliver, List.getElem?_modify] at present there
  obtain ⟨before, old, rfl⟩ := Option.map_eq_some_iff.mp present
  obtain ⟨other, alsoOld, rfl⟩ := Option.map_eq_some_iff.mp there
  have heard := echo.each slot before other old alsoOld
  split
  · exact Measurement.echoes_deliver heard s.outcome
  · exact heard

theorem echoes_deliverAll (echo : l.Echoes dropped whole) (settlements : List Settlement) :
    (settlements.foldl deliver l).Echoes dropped (settlements.foldl deliver whole) := by
  induction settlements generalizing l whole with
  | nil => exact echo
  | cons s settlements ih => exact ih (echoes_deliver echo s)

theorem echoes_table (echo : l.Echoes dropped whole) (table : Outstanding) :
    Echoes dropped { l with table } { whole with table } :=
  ⟨rfl, echo.length, echo.each⟩

/-- A drop leaves an echo of the ledger without it. -/
theorem echoes_dropMeasurement (echo : l.Echoes dropped whole) {slot : Nat} (now : dropped slot) :
    (l.dropMeasurement slot).Echoes dropped whole := by
  refine ⟨echo.table, by simp [dropMeasurement, echo.length], ?_⟩
  intro other m n present there
  rw [dropMeasurement, List.getElem?_modify] at present
  obtain ⟨before, old, rfl⟩ := Option.map_eq_some_iff.mp present
  have heard := echo.each other before n old there
  split
  case isTrue own => exact Measurement.echoes_drop heard (own ▸ now)
  case isFalse => exact heard

end Ledger

namespace Initiator

/-- The same but for the measurements with these numbers. -/
def Echoes (dropped : Nat → Prop) (i whole : Initiator) : Prop :=
  ∃ l, l.Echoes dropped whole.ledger ∧ i = { whole with ledger := l }

variable {dropped : Nat → Prop} {i whole : Initiator}

theorem echoes_self (dropped : Nat → Prop) (i : Initiator) : i.Echoes dropped i :=
  ⟨i.ledger, Ledger.echoes_self dropped i.ledger, rfl⟩

/-! ## What is done with both -/

theorem echoes_fail (echo : i.Echoes dropped whole) (fault : Fault) :
    (i.fail fault).Echoes dropped (whole.fail fault) := by
  obtain ⟨l, echo, rfl⟩ := echo
  refine ⟨l.fail fault, ?_, rfl⟩
  simp only [fail, Ledger.fail, echo.table]
  exact Ledger.echoes_concat echo _ (.failed fault)

theorem echoes_register (echo : i.Echoes dropped whole) (id : CorrelationId) :
    (i.register id).Echoes dropped (whole.register id) := by
  obtain ⟨l, echo, rfl⟩ := echo
  refine ⟨_, ?_, rfl⟩
  -- Both measurements have the same number, so that the entries are the same.
  simp only [register, Ledger.enter, echo.table, echo.length]
  exact Ledger.echoes_concat echo _ (.waiting id)

theorem echoes_send (echo : i.Echoes dropped whole) (id : CorrelationId) :
    (i.send id).Echoes dropped (whole.send id) := by
  obtain ⟨l, echo, rfl⟩ := echo
  simp only [send]
  split
  · exact ⟨l, echo, rfl⟩
  · exact ⟨l, echo, rfl⟩

theorem echoes_enter? (echo : i.Echoes dropped whole) (draws : List CorrelationId) :
    (i.enter? draws).1 = (whole.enter? draws).1 ∧
      (i.enter? draws).2.Echoes dropped (whole.enter? draws).2 := by
  have table : i.ledger.table = whole.ledger.table := by
    obtain ⟨l, echo, rfl⟩ := echo
    exact echo.table
  have closed : i.isClosed = whole.isClosed := congrArg (·.closed) table
  have free : i.freeId? draws = whole.freeId? draws := by rw [freeId?, freeId?, table]
  rw [enter?, enter?, closed, free]
  cases whole.isClosed with
  | true => exact ⟨rfl, echoes_fail echo .closed⟩
  | false =>
      cases whole.freeId? draws with
      | none => exact ⟨rfl, echoes_fail echo exhausted⟩
      | some id => exact ⟨rfl, echoes_register echo id⟩

theorem echoes_measure (echo : i.Echoes dropped whole) (draws : List CorrelationId) :
    (i.measure draws).Echoes dropped (whole.measure draws) := by
  obtain ⟨same, entered⟩ := echoes_enter? echo draws
  rw [measure_eq_enter?, measure_eq_enter?]
  cases asked : i.enter? draws with
  | mk id next =>
      cases also : whole.enter? draws with
      | mk _ other =>
          simp only [asked, also] at same entered
          subst same
          cases id with
          | none => exact entered
          | some id => exact echoes_send entered id

theorem echoes_onFrame (echo : i.Echoes dropped whole) (payload : Bytes) :
    (i.onFrame payload).1 = (whole.onFrame payload).1 ∧
      (i.onFrame payload).2.Echoes dropped (whole.onFrame payload).2 := by
  obtain ⟨l, echo, rfl⟩ := echo
  simp only [onFrame]
  cases CorrelationId.read payload with
  | error fault => exact ⟨rfl, l, echo, rfl⟩
  | ok id =>
      simp only [Ledger.resolve?, echo.table]
      cases whole.ledger.table.resolve? id whole.clock with
      | none => exact ⟨rfl, l, echo, rfl⟩
      | some settled =>
          obtain ⟨nanos, settlement, table⟩ := settled
          exact ⟨rfl, _, Ledger.echoes_deliver (Ledger.echoes_table echo table) settlement, rfl⟩

theorem echoes_expire (echo : i.Echoes dropped whole) (id : CorrelationId) :
    (i.expire id).Echoes dropped (whole.expire id) := by
  obtain ⟨l, echo, rfl⟩ := echo
  simp only [expire, Ledger.expire?, echo.table]
  cases whole.ledger.table.expire? id with
  | none => exact ⟨l, echo, rfl⟩
  | some settled =>
      obtain ⟨settlement, table⟩ := settled
      exact ⟨_, Ledger.echoes_deliver (Ledger.echoes_table echo table) settlement, rfl⟩

theorem echoes_fire (echo : i.Echoes dropped whole) (number : Nat) :
    (i.fire number).1 = (whole.fire number).1 ∧
      (i.fire number).2.Echoes dropped (whole.fire number).2 := by
  obtain ⟨l, echo, rfl⟩ := echo
  simp only [fire]
  cases whole.deadlines.take number with
  | mk action deadlines =>
      have still : Echoes dropped { whole with ledger := l, deadlines } { whole with deadlines } :=
        ⟨l, echo, rfl⟩
      cases action with
      | none => exact ⟨rfl, still⟩
      | some id => exact ⟨rfl, echoes_expire still id⟩

theorem echoes_onClose (echo : i.Echoes dropped whole) :
    i.onClose.1 = whole.onClose.1 ∧ i.onClose.2.Echoes dropped whole.onClose.2 := by
  obtain ⟨l, echo, rfl⟩ := echo
  simp only [onClose, Ledger.close?, echo.table]
  cases whole.ledger.table.close? with
  | none => exact ⟨rfl, l, echo, rfl⟩
  | some settled =>
      obtain ⟨settlements, table⟩ := settled
      exact ⟨rfl, _, Ledger.echoes_deliverAll (Ledger.echoes_table echo table) settlements, rfl⟩

/-! ## Runs -/

/-- What an initiator says of what was done with it. -/
inductive Answer
  | entered (id : Option CorrelationId)
  | frame (result : Except Fault Nat)
  | fired (ran : Bool)
  | closed (failed : Nat)
deriving DecidableEq, Repr

def Motion.isDrop : Motion → Bool
  | .event (.dropMeasurement _) => true
  | _ => false

def answer? (i : Initiator) : Motion → Option Answer
  | .event (.frame payload) => some (.frame (i.onFrame payload).1)
  | .event (.fire number) => some (.fired (i.fire number).1)
  | .event .close => some (.closed i.onClose.1)
  | .enter draws => some (.entered (i.enter? draws).1)
  | .event _ | .queue _ | .advanceDeadlines _ | .beginDelays => none

/-- All that an initiator says in the course of a run. -/
def answers (i : Initiator) : List Motion → List Answer
  | [] => []
  | motion :: motions => (i.answer? motion).toList ++ (i.move motion).answers motions

/-- Whatever is done with both of them, they answer alike. -/
theorem echoes_move (echo : i.Echoes dropped whole) {motion : Motion}
    (heard : motion.isDrop = false) :
    i.answer? motion = whole.answer? motion ∧
      (i.move motion).Echoes dropped (whole.move motion) := by
  cases motion with
  | event event =>
      cases event with
      | measure draws => exact ⟨rfl, echoes_measure echo draws⟩
      | frame payload =>
          obtain ⟨same, still⟩ := echoes_onFrame echo payload
          exact ⟨congrArg (some ∘ Answer.frame) same, still⟩
      | fire number =>
          obtain ⟨same, still⟩ := echoes_fire echo number
          exact ⟨congrArg (some ∘ Answer.fired) same, still⟩
      | close =>
          obtain ⟨same, still⟩ := echoes_onClose echo
          exact ⟨congrArg (some ∘ Answer.closed) same, still⟩
      | dropMeasurement slot => cases heard
      | advance | takeQueued | dropOutbound =>
          obtain ⟨l, echo, rfl⟩ := echo
          exact ⟨rfl, l, echo, rfl⟩
  | enter draws =>
      obtain ⟨same, still⟩ := echoes_enter? echo draws
      exact ⟨congrArg (some ∘ Answer.entered) same, still⟩
  | queue id => exact ⟨rfl, echoes_send echo id⟩
  | advanceDeadlines | beginDelays =>
      obtain ⟨l, echo, rfl⟩ := echo
      exact ⟨rfl, l, echo, rfl⟩

theorem echoes_dropMeasurement (echo : i.Echoes dropped whole) {slot : Nat} (now : dropped slot) :
    (i.dropMeasurement slot).Echoes dropped whole := by
  obtain ⟨l, echo, rfl⟩ := echo
  exact ⟨_, Ledger.echoes_dropMeasurement echo now, rfl⟩

theorem Motion.isDrop_iff {motion : Motion} :
    motion.isDrop = true ↔ ∃ slot, motion = .event (.dropMeasurement slot) := by
  constructor
  · intro drops
    cases motion with
    | event event =>
        cases event with
        | dropMeasurement slot => exact ⟨slot, rfl⟩
        | measure | frame | fire | close | advance | takeQueued | dropOutbound => cases drops
    | enter | queue | advanceDeadlines | beginDelays => cases drops
  · rintro ⟨slot, rfl⟩
    rfl

/-- Drops are left out of one of two runs. -/
theorem echoes_moves (echo : i.Echoes dropped whole) {motions : List Motion}
    (drops : ∀ slot, .event (.dropMeasurement slot) ∈ motions → dropped slot) :
    i.answers motions = whole.answers (motions.filter (!·.isDrop)) ∧
      (i.moves motions).Echoes dropped (whole.moves (motions.filter (!·.isDrop))) := by
  induction motions generalizing i whole with
  | nil => exact ⟨rfl, echo⟩
  | cons motion motions ih =>
      have later : ∀ slot, .event (.dropMeasurement slot) ∈ motions → dropped slot :=
        fun slot member => drops slot (List.mem_cons_of_mem _ member)
      cases unheard : motion.isDrop with
      | true =>
          obtain ⟨slot, rfl⟩ := Motion.isDrop_iff.mp unheard
          exact ih (echoes_dropMeasurement echo (drops slot List.mem_cons_self)) later
      | false =>
          obtain ⟨same, still⟩ := echoes_move echo unheard
          obtain ⟨answers, after⟩ := ih still later
          rw [List.filter_cons_of_pos (by simp [unheard])]
          refine ⟨?_, after⟩
          rw [Initiator.answers, Initiator.answers, same, answers]

/-- In any run of an initiator, callers drop measurements or do not. All that the initiator says
of frames, deadlines, requests and closing is the same, and so are the table, the deadlines, the
payloads that are queued and the counters, here as well as earlier in the run. A measurement that
was not dropped is the same, and one that was dropped has no other outcome than it would have. -/
theorem drops_go_unnoticed (uploadSize timeout clock : Nat) (motions : List Motion) :
    let undropped := motions.filter (!·.isDrop)
    let i := (start uploadSize timeout clock).moves motions
    let whole := (start uploadSize timeout clock).moves undropped
    (start uploadSize timeout clock).answers motions =
      (start uploadSize timeout clock).answers undropped ∧
    i.ledger.table = whole.ledger.table ∧ i.pendingCount = whole.pendingCount ∧
    i.deadlines = whole.deadlines ∧ i.outbound = whole.outbound ∧ i.tally = whole.tally ∧
    i.measurements.length = whole.measurements.length ∧
    (∀ slot, .event (.dropMeasurement slot) ∉ motions →
      i.measurements[slot]? = whole.measurements[slot]?) ∧
    ∀ slot outcome, i.progress? slot = some (.settled outcome) →
      whole.progress? slot = some (.settled outcome) := by
  intro undropped i whole
  obtain ⟨answers, l, echo, same⟩ := echoes_moves
    (echoes_self (fun slot => .event (.dropMeasurement slot) ∈ motions)
      (start uploadSize timeout clock)) (fun _ member => member)
  have same : i = { whole with ledger := l } := same
  refine ⟨answers, ?_, ?_, ?_, ?_, ?_, ?_, ?_, ?_⟩
  · rw [same, echo.table]
  · rw [same, pendingCount, echo.table, pendingCount]
  · rw [same]
  · rw [same]
  · rw [same]
  · rw [same, measurements, echo.length, measurements]
  · intro slot kept
    rw [same]
    exact echo.getElem?_of_kept kept
  · intro slot outcome settled
    rw [same] at settled
    obtain ⟨m, present, progress⟩ := Option.map_eq_some_iff.mp settled
    obtain ⟨n, there, heard⟩ := echo.exists_whole present
    have unchanged := heard.progress.resolve_left (by simp [progress])
    rw [progress?, measurements, there, Option.map_some, ← unchanged, progress]

/-- Of three requests the first one is answered after its measurement was dropped. -/
example :
    let motions : List Motion := [.event (.measure [7]), .event (.measure [8]),
      .event (.dropMeasurement 0), .event (.frame [7, 0, 0, 0]), .event .close]
    let i := (start 4 5 100).moves motions
    (start 4 5 100).answers motions = [.frame (.ok 0), .closed 1] ∧
      i.progress? 0 = some .dropped ∧ i.progress? 1 = some (.settled (.failed .closed)) ∧
      i.tally.repliesReceived = 1 := by
  decide

end Initiator

end RoundTrip
