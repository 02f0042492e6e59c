import RoundTrip.Proofs.Link.Loopback.Lowering

/-!
# Both sides taking turns

Both sides are used from outside while nobody is awake (`Loopback.touch`), and then the parts take
turns (`Loopback.Reached`). In every state that is reached each part is to get a turn or has
nothing to do (`attended_of_reached`, by one step in `attended_step`), and so nobody is forgotten.
Every step comes nearer to rest (`nearer_step`), and so the parts cannot go on for ever
(`rest_of_settle`).

Main result: when no part gets another turn, either both sides wait for what comes next and all
that was sent has been worked off (`Idle`), or both sides are over (`Over`), or the initiator has
stopped reading while its writer is in the middle of a frame, and neither side can get rid of what
it writes (`Stuck`). There is no fourth way to come to rest (`rest_of_reached`), and whatever is
done from outside, both sides come to rest in one of them (`settle_cases`).
-/

namespace RoundTrip

namespace Loopback

variable {l next : Loopback} {e f : Exchange} {capacity : Nat}

/-! ## Runs -/

/-- What is done from outside: the initiator is used, its clock goes on, and either side is asked
for a shutdown. -/
def touch (initiator : Initiator) (closesAsking closesAnswering : Bool) (l : Loopback) :
    Loopback :=
  let asking := { l.asking with initiator }
  { l with
    asking := if closesAsking then asking.close else asking
    answering := if closesAnswering then l.answering.close else l.answering }

/-- The parts that are concerned wake up, and the deadlines that are due run. -/
def begin (l : Loopback) : Loopback :=
  { l.wakeParts with asking := l.wakeParts.asking.poll }

/-- What two sides over pipes of this capacity can come to. -/
inductive Reached (e f : Exchange) (capacity : Nat) : Loopback → Prop
  | start : Reached e f capacity (ofExchanges e f capacity)
  | touch {l : Loopback} (initiator : Initiator) (closesAsking closesAnswering : Bool) :
      Reached e f capacity l → l.step? = none →
      Reached e f capacity (l.touch initiator closesAsking closesAnswering).begin
  | step {l next : Loopback} :
      Reached e f capacity l → l.step? = some next → Reached e f capacity next

/-- To settle is to take turns. -/
theorem reached_settle (reached : Reached e f capacity l) (rest : l.step? = none)
    (initiator : Initiator) (closesAsking closesAnswering : Bool) :
    Reached e f capacity (l.touch initiator closesAsking closesAnswering).settle := by
  have turns (fuel : Nat) {l : Loopback} (reached : Reached e f capacity l) :
      Reached e f capacity (RoundTrip.settle step? fuel l) := by
    induction fuel generalizing l with
    | zero => exact reached
    | succ fuel ih =>
        rw [RoundTrip.settle]
        split
        case h_1 next step => exact ih (.step reached step)
        case h_2 => exact reached
  exact turns _ (.touch initiator closesAsking closesAnswering reached rest)

/-! ## Nobody is forgotten -/

theorem attended_start (e f : Exchange) (capacity : Nat) :
    (ofExchanges e f capacity).Attended where
  sides := ⟨⟨rfl, fun _ => rfl, fun ended => absurd rfl ended⟩, rfl,
    fun halted => absurd rfl halted, fun isOver => absurd rfl isOver, fun _ => rfl, rfl⟩
  shut isOver := isOver.elim (absurd rfl) (absurd rfl)
  called _ := rfl
  held part := by
    refine .inr ?_
    cases part with
    | deadline => trivial
    | writer => exact .inr (.inl ⟨rfl, rfl, rfl, rfl, rfl⟩)
    | reader => exact .inr ⟨rfl, rfl, rfl, rfl, rfl, rfl⟩
    | responder => exact .inr (.inl ⟨rfl, rfl, rfl, rfl, rfl, rfl, rfl⟩)

/-- When nobody is awake, all parts rest. -/
theorem Attended.rests (attended : l.Attended) (rest : l.step? = none) (part : Part) :
    l.Rests part := by
  refine (attended.held part).resolve_left fun holds => ?_
  rw [step?] at rest
  split at rest
  case h_1 awake =>
    rcases holds with member | member
    · rw [awake] at member
      cases member
    · rw [attended.called awake] at member
      cases member
  case h_2 | h_3 | h_4 | h_5 => cases rest

theorem Attended.busy (attended : l.Attended) {part : Part}
    (head : l.turns.awake.head? = some part) : l.Busy part :=
  ⟨attended.sides, head, fun other _ => attended.held other⟩

/-- Whoever takes the turn, nobody is forgotten. -/
theorem attended_step (attended : l.Attended) (step : l.step? = some next) : next.Attended := by
  rw [step?] at step
  split at step
  case h_1 => cases step
  case h_2 later awake =>
    cases step
    exact attended_writerTurn (attended.busy (congrArg List.head? awake)) attended.shut
  case h_3 later awake =>
    cases step
    exact attended_readerTurn (attended.busy (congrArg List.head? awake)) attended.shut
  case h_4 later awake =>
    cases step
    exact attended_responderTurn (attended.busy (congrArg List.head? awake)) attended.shut
  case h_5 later awake =>
    cases step
    exact (attended.busy (congrArg List.head? awake)).rest attended.shut trivial

/-- Waking a part on a condition. -/
theorem wakeIf_eq (c : Prop) [Decidable c] (part : Part) (l : Loopback) :
    ∃ turns, (if c then l.wake part else l) = { l with turns } ∧
      turns.deferred = l.turns.deferred ∧ (c → turns.Holds part) ∧
      ∀ other, l.turns.Holds other → turns.Holds other := by
  split
  case isTrue =>
    exact ⟨_, rfl, Turns.deferred_wake part l.turns, fun _ => Turns.mem_wake part l.turns,
      fun _ holds => Turns.holds_wake holds part⟩
  case isFalse no => exact ⟨_, rfl, rfl, fun yes => absurd yes no, fun _ => id⟩

/-- Who wakes up: the writer if there is something to write, and those that are to see a
shutdown. -/
theorem wakeParts_eq (l : Loopback) :
    ∃ turns, l.wakeParts = { l with turns } ∧ turns.deferred = [] ∧
      (l.writerIsIdle = true ∧
        (l.asking.sending.shutdown = true ∨ l.asking.initiator.outbound.queued ≠ []) →
        turns.Holds .writer) ∧
      (l.asking.sending.shutdown = true ∧ l.asking.reader = .running → turns.Holds .reader) ∧
      (l.answering.shutdown = true ∧ l.answering.status = .running ∧ l.answering.unsent = [] →
        turns.Holds .responder) := by
  obtain ⟨first, writing, none, writer, -⟩ := wakeIf_eq
    (l.writerIsIdle = true ∧
      (l.asking.sending.shutdown = true ∨ l.asking.initiator.outbound.queued ≠ [])) .writer
    { l with
      turns := Turns.begin.wakeDeadlines (min l.asking.initiator.deadlines.fresh.length 1) }
  obtain ⟨second, reading, none', reader, kept⟩ := wakeIf_eq
    (l.asking.sending.shutdown = true ∧ l.asking.reader = .running) .reader
    { l with turns := first }
  obtain ⟨third, answering, none'', responder, kept'⟩ := wakeIf_eq
    (l.answering.shutdown = true ∧ l.answering.status = .running ∧ l.answering.unsent = [])
    .responder { l with turns := second }
  refine ⟨third.wakeDeadlines (l.asking.initiator.deadlines.fresh.length - 1), ?_,
    none''.trans (none'.trans none), ?_, ?_, ?_⟩
  · unfold wakeParts
    dsimp only
    rw [writing, reading, answering]
  · exact fun c => Turns.holds_wakeDeadlines (kept' _ (kept _ (writer c))) _
  · exact fun c => Turns.holds_wakeDeadlines (kept' _ (reader c)) _
  · exact fun c => Turns.holds_wakeDeadlines (responder c) _

/-- From outside only the initiator changes and shutdowns are asked for. -/
theorem touch_eq (initiator : Initiator) (closesAsking closesAnswering : Bool) (l : Loopback) :
    ∃ asked told, l.touch initiator closesAsking closesAnswering =
        { l with
          asking :=
            { l.asking with
              initiator, sending := { l.asking.sending with shutdown := asked } }
          answering := { l.answering with shutdown := told } } ∧
      (l.asking.sending.shutdown = true → asked = true) := by
  refine ⟨if closesAsking then true else l.asking.sending.shutdown,
    if closesAnswering then true else l.answering.shutdown, ?_, fun before => ?_⟩
  · cases closesAsking <;> cases closesAnswering <;> rfl
  · rw [before, ite_self]

/-- Deadlines queue nothing. -/
theorem poll_outbound (i : Initiator) : i.poll.outbound = i.outbound := by
  have expire (i : Initiator) (id : CorrelationId) : (i.expire id).outbound = i.outbound := by
    rw [Initiator.expire]
    split <;> rfl
  have all (due : List CorrelationId) (i : Initiator) :
      (due.foldl Initiator.expire i).outbound = i.outbound := by
    induction due generalizing i with
    | nil => rfl
    | cons id due ih => exact (ih _).trans (expire i id)
  exact all _ _

/-- Those that are concerned by what is done from outside wake up. -/
theorem attended_begin (attended : l.Attended) (rest : l.step? = none) (initiator : Initiator)
    (closesAsking closesAnswering : Bool) :
    (l.touch initiator closesAsking closesAnswering).begin.Attended := by
  obtain ⟨asked, told, touched, stays⟩ := touch_eq initiator closesAsking closesAnswering l
  obtain ⟨turns, woken, none, writer, reader, responder⟩ :=
    wakeParts_eq (l.touch initiator closesAsking closesAnswering)
  rw [begin, woken]
  rw [touched] at writer reader responder ⊢
  obtain ⟨writing, written, stopped, finished, isOpen, answered⟩ := attended.sides
  refine ⟨⟨⟨writing.senders, writing.isOpen, fun ended => stays (writing.asked ended)⟩, written,
    fun halted => stays (stopped halted), finished, isOpen, answered⟩, attended.shut,
    fun _ => none, fun part => ?_⟩
  have rests := attended.rests rest part
  cases part with
  | deadline => exact .inr trivial
  | writer =>
      rcases rests with ended | ⟨running, idle, empty, -, -⟩ | blocked
      · exact .inr (.inl ended)
      · by_cases concerned : asked = true ∨ initiator.outbound.queued ≠ []
        · refine .inl (writer ⟨?_, concerned⟩)
          simp [writerIsIdle, running, idle]
        · rw [not_or, Bool.not_eq_true, Decidable.not_not] at concerned
          refine .inr (.inr (.inl ⟨running, idle, empty, ?_, concerned.1⟩))
          exact (congrArg _ (poll_outbound initiator)).trans concerned.2
      · exact .inr (.inr (.inr blocked))
  | reader =>
      rcases rests with halted | ⟨reading, -, few, dry⟩
      · exact .inr (.inl halted)
      · cases asked with
        | true => exact .inl (reader ⟨rfl, reading⟩)
        | false => exact .inr (.inr ⟨reading, rfl, few, dry⟩)
  | responder =>
      rcases rests with ended | ⟨running, idle, -, few, dry⟩ | blocked
      · exact .inr (.inl ended)
      · cases told with
        | true => exact .inl (responder ⟨rfl, running, idle⟩)
        | false => exact .inr (.inr (.inl ⟨running, idle, rfl, few, dry⟩))
      · exact .inr (.inr (.inr blocked))

/-- In every state that is reached, each part is to get a turn or has nothing to do. -/
theorem attended_of_reached (reached : Reached e f capacity l) : l.Attended := by
  induction reached with
  | start => exact attended_start e f capacity
  | touch initiator closesAsking closesAnswering _ rest ih =>
      exact attended_begin ih rest initiator closesAsking closesAnswering
  | step _ step ih => exact attended_step ih step

/-! ## Nobody goes on for ever -/

theorem booked_start (e f : Exchange) (capacity : Nat) : (ofExchanges e f capacity).Booked where
  requests _ := ⟨rfl, rfl⟩
  replies _ := ⟨rfl, rfl⟩
  released isOver := absurd rfl isOver
  ends closed := absurd closed Bool.false_ne_true
  requestIntake ready := absurd ready (show ¬ Intake.isReady {} by decide)
  replyIntake ready := absurd ready (show ¬ Intake.isReady {} by decide)

theorem booked_begin (booked : l.Booked) (initiator : Initiator)
    (closesAsking closesAnswering : Bool) :
    (l.touch initiator closesAsking closesAnswering).begin.Booked := by
  obtain ⟨asked, told, touched, -⟩ := touch_eq initiator closesAsking closesAnswering l
  obtain ⟨turns, woken, -⟩ := wakeParts_eq (l.touch initiator closesAsking closesAnswering)
  rw [begin, woken, touched]
  exact ⟨booked.requests, booked.replies, booked.released, booked.ends, booked.requestIntake,
    booked.replyIntake⟩

/-- Whoever takes the turn, both sides come nearer to rest. -/
theorem nearer_step (attended : l.Attended) (booked : l.Booked) (step : l.step? = some next) :
    next.Booked ∧ next.bound < l.bound := by
  rw [step?] at step
  split at step
  case h_1 => cases step
  case h_2 later awake =>
    cases step
    exact nearer_writerTurn (attended.busy (congrArg List.head? awake)) booked
  case h_3 later awake =>
    cases step
    exact nearer_readerTurn (attended.busy (congrArg List.head? awake)) booked attended.shut
  case h_4 later awake =>
    cases step
    exact nearer_responderTurn (attended.busy (congrArg List.head? awake)) booked attended.shut
  case h_5 later awake =>
    cases step
    exact ⟨booked.turns _, bound_rest_lt (congrArg List.head? awake)⟩

theorem booked_of_reached (reached : Reached e f capacity l) : l.Booked := by
  induction reached with
  | start => exact booked_start e f capacity
  | touch initiator closesAsking closesAnswering _ _ ih =>
      exact booked_begin ih initiator closesAsking closesAnswering
  | step reached step ih => exact (nearer_step (attended_of_reached reached) ih step).1

/-- Whatever is done from outside, the parts take turns until none of them gets another one. -/
theorem rest_of_settle (reached : Reached e f capacity l) (rest : l.step? = none)
    (initiator : Initiator) (closesAsking closesAnswering : Bool) :
    (l.touch initiator closesAsking closesAnswering).settle.step? = none := by
  have keeps (s next : Loopback) (holds : s.Attended ∧ s.Booked) (step : s.step? = some next) :
      (next.Attended ∧ next.Booked) ∧ next.bound < s.bound := by
    obtain ⟨booked, nearer⟩ := nearer_step holds.1 holds.2 step
    exact ⟨⟨attended_step holds.1 step, booked⟩, nearer⟩
  have begun := Reached.touch initiator closesAsking closesAnswering reached rest
  exact (settle_rests keeps ⟨attended_of_reached begun, booked_of_reached begun⟩
    (Nat.le_refl _)).2

/-! ## The size of the pipes -/

@[simp]
theorem capacity_wakeForRequests (l : Loopback) : l.wakeForRequests.capacity = l.capacity := by
  rw [wakeForRequests]
  split <;> rfl

@[simp]
theorem capacity_wakeForReplies (l : Loopback) : l.wakeForReplies.capacity = l.capacity := by
  rw [wakeForReplies]
  split <;> rfl

@[simp]
theorem capacity_wakeForRequestRoom (l : Loopback) :
    l.wakeForRequestRoom.capacity = l.capacity := by
  rw [wakeForRequestRoom]
  split <;> rfl

@[simp]
theorem capacity_wakeForReplyRoom (l : Loopback) : l.wakeForReplyRoom.capacity = l.capacity := by
  rw [wakeForReplyRoom]
  split <;> rfl

@[simp]
theorem capacity_closePipes (l : Loopback) : l.closePipes.capacity = l.capacity := by
  simp [closePipes]

@[simp]
theorem capacity_wake (part : Part) (l : Loopback) : (l.wake part).capacity = l.capacity := rfl

@[simp]
theorem capacity_rest (l : Loopback) : l.rest.capacity = l.capacity := rfl

@[simp]
theorem capacity_defer (l : Loopback) : l.defer.capacity = l.capacity := rfl

theorem capacity_writerTurn (l : Loopback) : l.writerTurn.capacity = l.capacity := by
  simp only [writerTurn, apply_ite capacity]
  simp

@[simp]
theorem capacity_finishAsking (l : Loopback) : l.finishAsking.capacity = l.capacity := by
  simp only [finishAsking, apply_ite capacity]
  simp

@[simp]
theorem capacity_lookAtReplies (l : Loopback) : l.lookAtReplies.capacity = l.capacity := by
  simp only [lookAtReplies, apply_ite capacity]
  simp

theorem capacity_readerTurn (l : Loopback) : l.readerTurn.capacity = l.capacity := by
  unfold readerTurn
  repeat' split
  all_goals simp

@[simp]
theorem capacity_work (l : Loopback) : l.work.capacity = l.capacity := by
  simp only [work, apply_ite capacity]
  simp

theorem capacity_responderTurn (l : Loopback) : l.responderTurn.capacity = l.capacity := by
  unfold responderTurn
  repeat' split
  all_goals simp

theorem capacity_step (step : l.step? = some next) : next.capacity = l.capacity := by
  rw [step?] at step
  split at step
  case h_1 => cases step
  case h_2 =>
    cases step
    exact capacity_writerTurn l
  case h_3 =>
    cases step
    exact capacity_readerTurn l
  case h_4 =>
    cases step
    exact capacity_responderTurn l
  case h_5 =>
    cases step
    rfl

theorem capacity_of_reached (reached : Reached e f capacity l) : l.capacity = capacity := by
  induction reached with
  | start => rfl
  | @touch l initiator closesAsking closesAnswering _ _ ih =>
      obtain ⟨_, woken, -⟩ := wakeParts_eq (l.touch initiator closesAsking closesAnswering)
      rw [begin, woken]
      exact ih
  | step _ step ih => exact (capacity_step step).trans ih

/-! ## How both sides come to rest -/

/-- Both sides wait for what comes next, and all that was sent has been worked off. -/
structure Idle (l : Loopback) : Prop where
  status : l.asking.status = .running ∧ l.answering.status = .running
  reader : l.asking.reader = .running ∧ l.replyIntake.isReady = false
  writer : l.asking.sending.writer.status = .running
  responder : l.answering.unsent = [] ∧ l.requestIntake.isReady = false
  written : l.asking.sending.writer.unsent = [] ∧ l.asking.sending.writer.queue = [] ∧
    l.asking.initiator.outbound.queued = []
  quiet : l.asking.sending.shutdown = false ∧ l.answering.shutdown = false
  requests : l.requests.content = [] ∧ l.requests.closed = false
  replies : l.replies.content = [] ∧ l.replies.closed = false

/-- Both sides are over. -/
structure Over (l : Loopback) : Prop where
  status : l.asking.status ≠ .running ∧ l.answering.status ≠ .running
  reader : l.asking.reader ≠ .running
  writer : l.asking.sending.writer.status ≠ .running
  closed : l.requests.closed = true ∧ l.replies.closed = true

/-- The initiator has stopped reading, and neither side can get rid of what it writes. -/
structure Stuck (l : Loopback) : Prop where
  status : l.asking.status = .running ∧ l.answering.status = .running
  reader : l.asking.reader ≠ .running ∧ l.asking.sending.shutdown = true
  writer : l.asking.sending.writer.status = .running ∧ l.asking.sending.writer.unsent ≠ []
  responder : l.answering.unsent ≠ []
  requests : l.requests.Full l.capacity
  replies : l.replies.Full l.capacity

/-- Over an open pipe both sides go on. -/
theorem Attended.running_of_isOpen (attended : l.Attended) (isOpen : l.replies.closed = false) :
    l.asking.status = .running ∧ l.answering.status = .running := by
  have goesOn : ¬ (l.asking.status ≠ .running ∨ l.answering.status ≠ .running) :=
    fun isOver => Bool.eq_false_iff.mp isOpen (attended.shut isOver).2
  rw [not_or, Decidable.not_not, Decidable.not_not] at goesOn
  exact goesOn

/-- Who waits for bytes finds a pipe that is open and not full, so nobody waits for room in it. -/
theorem Attended.idle (attended : l.Attended) (room : 0 < l.capacity) (rest : l.step? = none)
    (reading : l.asking.reader = .running) : l.Idle := by
  rcases attended.rests rest .reader with ⟨halted, -⟩ | ⟨-, quiet, few, -, empty, isOpen⟩
  · exact absurd reading halted
  · obtain ⟨running, running'⟩ := attended.running_of_isOpen isOpen
    rcases attended.rests rest .responder with gone | ⟨-, idle, quiet', few', dry⟩ | ⟨-, -, full⟩
    · exact absurd running' gone
    · rcases attended.rests rest .writer with ended | ⟨writes, done, none, queued, -⟩ | ⟨-, -, full⟩
      · exact absurd (attended.sides.writer.asked ended) (Bool.eq_false_iff.mp quiet)
      · exact ⟨⟨running, running'⟩, ⟨reading, few⟩, writes, ⟨idle, few'⟩, ⟨done, none, queued⟩,
          ⟨quiet, quiet'⟩, dry.2, empty, isOpen⟩
      · exact absurd dry.2.1 (full.content_ne_nil room)
    · exact absurd empty (full.content_ne_nil room)

/-- Once the initiator is over, both pipes are closed and the responder sees it. -/
theorem Attended.isOver (attended : l.Attended) (rest : l.step? = none)
    (halted : l.asking.reader ≠ .running) (ended : l.asking.sending.writer.status ≠ .running)
    (isOver : l.asking.status ≠ .running) : l.Over := by
  obtain ⟨requests, replies⟩ := attended.shut (.inl isOver)
  refine ⟨⟨isOver, ?_⟩, halted, ended, requests, replies⟩
  rcases attended.rests rest .responder with gone | ⟨-, -, -, -, dry⟩ | ⟨-, -, full⟩
  · exact gone
  · exact absurd requests (Bool.eq_false_iff.mp dry.2.2)
  · exact absurd replies (Bool.eq_false_iff.mp full.2.2)

/-- A writer that waits for room keeps the responder from waiting for bytes. -/
theorem Attended.stuck (attended : l.Attended) (room : 0 < l.capacity) (rest : l.step? = none)
    (halted : l.asking.reader ≠ .running) (writing : l.asking.sending.writer.status = .running ∧
      l.asking.sending.writer.unsent ≠ [] ∧ l.requests.Full l.capacity) : l.Stuck := by
  obtain ⟨running, unsent, full⟩ := writing
  rcases attended.rests rest .responder with gone | ⟨-, -, -, -, dry⟩ | ⟨-, unsent', full'⟩
  · exact absurd (attended.shut (.inr gone)).1 (Bool.eq_false_iff.mp full.2.2)
  · exact absurd dry.2.1 (full.content_ne_nil room)
  · exact ⟨attended.running_of_isOpen full'.2.2, ⟨halted, attended.sides.stopped halted⟩,
      ⟨running, unsent⟩, unsent', full, full'⟩

/-- There is no other way to come to rest. -/
theorem Attended.rest_cases (attended : l.Attended) (room : 0 < l.capacity)
    (rest : l.step? = none) : l.Idle ∨ l.Over ∨ l.Stuck := by
  rcases attended.rests rest .reader with ⟨halted, goesOn⟩ | ⟨reading, -⟩
  · rcases attended.rests rest .writer with ended | ⟨-, -, -, -, quiet⟩ | writing
    · exact .inr (.inl (attended.isOver rest halted ended (goesOn.resolve_left ended)))
    · exact absurd (attended.sides.stopped halted) (Bool.eq_false_iff.mp quiet)
    · exact .inr (.inr (attended.stuck room rest halted writing))
  · exact .inl (attended.idle room rest reading)

/-- Whenever two sides over pipes come to rest, they wait for what comes next with nothing left to
do, or are over, or are stuck. -/
theorem rest_of_reached (room : 0 < capacity) (reached : Reached e f capacity l)
    (rest : l.step? = none) : l.Idle ∨ l.Over ∨ l.Stuck :=
  (attended_of_reached reached).rest_cases (capacity_of_reached reached ▸ room) rest

/-- Whatever is done from outside, both sides come to rest in one of these three ways. -/
theorem settle_cases (room : 0 < capacity) (reached : Reached e f capacity l)
    (rest : l.step? = none) (initiator : Initiator) (closesAsking closesAnswering : Bool) :
    let settled := (l.touch initiator closesAsking closesAnswering).settle
    settled.Idle ∨ settled.Over ∨ settled.Stuck :=
  rest_of_reached room (reached_settle reached rest initiator closesAsking closesAnswering)
    (rest_of_settle reached rest initiator closesAsking closesAnswering)

/-- Both sides are stuck after three requests if the replies are too large for the initiator and
the pipes are small. -/
example :
    ∃ l, Reached { uploadSize := 8, maxFrameSize := some 16 } { downloadSize := 24 } 8 l ∧
      l.step? = none ∧ l.Stuck := by
  let start := (Asking.ofExchange { uploadSize := 8 }).initiator
  let asked := ((start.measure [0]).measure [1]).measure [2]
  refine ⟨_, reached_settle .start rfl asked false false,
    rest_of_settle .start rfl asked false false, ?_⟩
  exact ⟨by decide +kernel, by decide +kernel, by decide +kernel, by decide +kernel,
    by decide +kernel, by decide +kernel⟩

end Loopback

end RoundTrip
