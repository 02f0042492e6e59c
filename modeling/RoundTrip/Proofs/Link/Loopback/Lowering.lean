import RoundTrip.Proofs.Link.Loopback.Bound
import RoundTrip.Proofs.Link.Loopback.Turns

/-!
# Nearer to rest

Whichever part takes a turn, the bound of the steps is lower afterwards: the writer
(`nearer_writerTurn`), the reader (`nearer_readerTurn`) and the responder (`nearer_responderTurn`).
What a part does leaves less to do, which counts for more than the places that it gives away, and a
part that has nothing to do gives up its own place.
-/

namespace RoundTrip

namespace Loopback

variable {l : Loopback}

/-! ## The initiator -/

/-- Whom the writer wakes counts for less than what it has written. -/
theorem bound_wrote (booked : l.Booked) (asking : Asking) (content : Bytes) (closed : Bool)
    (left : Nat) (pending : asking.initiator.pendingCount = l.asking.initiator.pendingCount)
    (stays : l.asking.sending.writer.status ≠ .running →
      asking.sending.writer.status ≠ .running) :
    let moved : Loopback := { l with asking, requests := { l.requests with content, closed } }
    moved.load < l.load ∨
      left ≠ 0 ∧ moved.load ≤ l.load ∧ content = l.requests.content ∧ closed = l.requests.closed →
    moved.wakeForRequests.bound < l.bound ∨
      left ≠ 0 ∧ moved.wakeForRequests.bound ≤ l.bound := by
  intro moved lower
  have writes : moved.writes = true → l.writes = true := fun goesOn =>
    decide_eq_true (Decidable.not_not.mp fun ended => stays ended (of_decide_eq_true goesOn))
  have cost := Turns.cost_mono writes l.turns
  have before : l.bound = 16 * l.load + l.asking.initiator.pendingCount + l.turns.cost l.writes :=
    rfl
  have after : moved.bound =
      16 * moved.load + l.asking.initiator.pendingCount + l.turns.cost moved.writes :=
    pending ▸ rfl
  rcases lower with lower | ⟨more, equal, rfl, rfl⟩
  · have woken := bound_wakeForRequests moved
    exact .inl (by omega)
  · refine .inr ⟨more, ?_⟩
    rw [wakeForRequests_of_quiet (l := moved) booked.requests]
    omega

/-- The writer has written or has found nothing to write. -/
theorem nearer_wrote (head : l.turns.awake.head? = some .writer) (booked : l.Booked)
    (asking : Asking) (content : Bytes) (closed : Bool) (left : Nat)
    (status : asking.status = l.asking.status)
    (finished : asking.status ≠ .running → asking.sending.writer.status ≠ .running)
    (ends : asking.sending.stream.writeClosed = true → closed = true)
    (inbox : asking.sending.stream.inbox = l.asking.sending.stream.inbox)
    (pending : asking.initiator.pendingCount = l.asking.initiator.pendingCount)
    (stays : l.asking.sending.writer.status ≠ .running →
      asking.sending.writer.status ≠ .running) :
    let moved : Loopback := { l with asking, requests := { l.requests with content, closed } }
    let written := moved.wakeForRequests
    let next := if asking.sending.writer.status ≠ .running then (written.wake .reader).rest
      else if left = 0 then written.defer
      else
        { written with
          requests := { written.requests with writerWaits := !written.writerIsIdle } }.rest
    moved.load < l.load ∨
      left ≠ 0 ∧ moved.load ≤ l.load ∧ content = l.requests.content ∧ closed = l.requests.closed →
    next.Booked ∧ next.bound < l.bound := by
  intro moved written next lower
  have near : written.bound < l.bound ∨ left ≠ 0 ∧ written.bound ≤ l.bound :=
    bound_wrote booked asking content closed left pending stays lower
  obtain ⟨readerWaits, turns, same, quiet, kept⟩ := wakeForRequests_eq .writer moved
  have same :
      written = { moved with requests := { moved.requests with readerWaits }, turns } := same
  have own : written.asking = asking := by rw [same]
  have head' : written.turns.awake.head? = some .writer := by
    rw [same]
    exact kept head
  have booked' : written.Booked := by
    rw [same]
    exact ⟨quiet, booked.replies, status ▸ booked.released, ends, booked.requestIntake,
      inbox ▸ booked.replyIntake⟩
  clear_value written
  show Booked (ite _ _ _) ∧ Loopback.bound (ite _ _ _) < _
  split
  case isTrue ended =>
    refine ⟨booked'.turns _, ?_⟩
    have gone : written.writes = false := decide_eq_false (own ▸ ended)
    have woken := bound_wake .reader written
    rw [gone] at woken
    have head'' : (written.wake .reader).turns.awake.head? = some .writer :=
      Turns.head_wake head' .reader
    have rested := bound_rest head''
    simp only [Part.cost, Bool.false_eq_true, ↓reduceIte] at woken rested
    omega
  case isFalse running =>
    split
    case isTrue none =>
      have deferred := bound_defer head'
      refine ⟨booked'.turns _, ?_⟩
      omega
    case isFalse more =>
      refine ⟨⟨booked'.requests, booked'.replies,
        fun isOver => absurd (finished (own ▸ isOver)) running, booked'.ends, booked'.requestIntake,
        booked'.replyIntake⟩, ?_⟩
      let waiting : Loopback :=
        { written with requests := { written.requests with writerWaits := !written.writerIsIdle } }
      have rested := bound_rest_lt (l := waiting) head'
      have : waiting.bound = written.bound := rfl
      show waiting.rest.bound < _
      omega

/-- What was written is taken up by the pipe, where it counts as much. -/
theorem load_wrote (l : Loopback) (asking : Asking) (closed : Bool) :
    Loopback.load
      { l with
        asking := asking.setStream { asking.sending.stream with written := [] }
        requests :=
          { l.requests with
            content := l.requests.content ++ asking.sending.stream.written, closed } }
        + l.asking.load (l.answering.share + 2) =
      l.load + asking.load (l.answering.share + 2) := by
  have collected := asking.load_collect (l.answering.share + 2)
  generalize asking.setStream _ = after at *
  simp only [load, List.length_append, Nat.add_mul]
  omega

theorem nearer_writerTurn (busy : l.Busy .writer) (booked : l.Booked) :
    l.writerTurn.Booked ∧ l.writerTurn.bound < l.bound := by
  obtain ⟨-, -, -, -, status, ended⟩ :=
    Asking.writeWithin_works (working_writer busy.sides) Turns.operations
  obtain ⟨used, moved, inbox, -, pending⟩ := Asking.load_writeWithin (l.answering.share + 2)
    (a := l.asking.setStream (l.requests.offer l.capacity l.asking.sending.stream))
    busy.sides.asked Turns.operations
  unfold writerTurn
  dsimp only
  generalize Asking.writeWithin Turns.operations _ = result at *
  obtain ⟨left, asking⟩ := result
  refine nearer_wrote busy.head booked
    (asking.setStream { asking.sending.stream with written := [] })
    (l.requests.content ++ asking.sending.stream.written)
    (l.requests.closed || asking.sending.stream.writeClosed) left status
    (fun isOver => ended (busy.sides.finished (status ▸ isOver)))
    (fun closed => (congrArg (_ || ·) closed).trans (Bool.or_true _)) inbox pending ended ?_
  have total := l.load_wrote asking (l.requests.closed || asking.sending.stream.writeClosed)
  have used : asking.load (l.answering.share + 2) + Turns.operations ≤
      l.asking.load (l.answering.share + 2) + left := used
  rcases Nat.lt_or_ge (asking.load (l.answering.share + 2)) (l.asking.load (l.answering.share + 2))
    with lower | same
  · left
    omega
  · obtain ⟨equal, none, open'⟩ := moved.resolve_left (Nat.not_lt_of_le same)
    have equal : asking.load (l.answering.share + 2) ≤ l.asking.load (l.answering.share + 2) :=
      equal
    have some : 0 < Turns.operations := by decide
    refine .inr ⟨by omega, by omega, ?_, ?_⟩
    · rw [show asking.sending.stream.written = [] from none, List.append_nil]
    · rw [show asking.sending.stream.writeClosed = l.asking.sending.stream.writeClosed from open']
      cases closes : l.asking.sending.stream.writeClosed with
      | false => exact Bool.or_false _
      | true => rw [booked.ends closes, Bool.or_true]

/-- Closing what is over wakes nobody, and what has come to its end counts for more than all that
wait for it. -/
theorem bound_closePipes_of_over (booked : l.Booked) (shut : l.Shut) {status : Status}
    (isOver : status ≠ .running) (summaries : Nat) :
    Loopback.bound (closePipes { l with asking := { l.asking with status, summaries } }) ≤
      l.bound := by
  let m : Loopback := { l with asking := { l.asking with status, summaries } }
  show m.closePipes.bound ≤ l.bound
  have load : m.load + l.asking.status.load = l.load := by
    simp only [m, Loopback.load, Asking.load, Status.load_of_ended isOver]
    omega
  have before : l.bound = 16 * l.load + l.asking.initiator.pendingCount + l.turns.cost l.writes :=
    rfl
  have after : m.bound = 16 * m.load + l.asking.initiator.pendingCount + l.turns.cost l.writes :=
    rfl
  by_cases running : l.asking.status = .running
  · have := bound_closePipes m
    rw [running, Status.load_running] at load
    omega
  · obtain ⟨requests, replies⟩ := shut (.inl running)
    obtain ⟨requests', replies'⟩ := booked.released running
    have same : m.closePipes = m :=
      closePipes_of_shut ⟨requests, booked.requests.readerWaits requests, requests'⟩
        ⟨replies, booked.replies.readerWaits replies, replies'⟩
    rw [same]
    omega

/-- The reader has ended, and with the writer all is over. -/
theorem nearer_finishAsking (head : l.turns.awake.head? = some .reader) (booked : l.Booked)
    (shut : l.Shut) (halted : l.asking.reader ≠ .running) :
    l.finishAsking.rest.Booked ∧ l.finishAsking.rest.bound < l.bound := by
  obtain ⟨status, summaries, same, goesOn, -⟩ := Asking.finish_eq halted
  let m : Loopback := { l with asking := { l.asking with status, summaries } }
  rw [finishAsking, same]
  split
  case isTrue isOver =>
    have closes := bound_closePipes_of_over booked shut isOver summaries
    obtain ⟨turns, closed, kept⟩ := closePipes_eq .reader m
    show m.closePipes.rest.Booked ∧ m.closePipes.rest.bound < l.bound
    rw [closed] at closes ⊢
    refine ⟨?_, Nat.lt_of_lt_of_le (bound_rest_lt (kept head)) closes⟩
    exact ⟨(absurd · Bool.false_ne_true), (absurd · Bool.false_ne_true), fun _ => ⟨rfl, rfl⟩,
      fun _ => rfl, booked.requestIntake, booked.replyIntake⟩
  case isFalse still =>
    obtain ⟨running, writes⟩ := goesOn (Decidable.not_not.mp still)
    have goesOn' : m.asking.status = l.asking.status :=
      (Decidable.not_not.mp still).trans running.symm
    have bound : m.bound = l.bound := by
      have load : m.load = l.load := by
        simp only [Loopback.load, Asking.load, goesOn']
        rfl
      rw [Loopback.bound, load]
      rfl
    have booked' : m.Booked :=
      ⟨booked.requests, booked.replies, fun isOver => absurd isOver still, booked.ends,
        booked.requestIntake, booked.replyIntake⟩
    split
    case isTrue =>
      -- The place of a reader counts for more than that of the writer that it wakes.
      have woken := bound_wake .writer m
      have head' : (m.wake .writer).turns.awake.head? = some .reader := Turns.head_wake head .writer
      have rested := bound_rest head'
      have goesOn : (m.wake .writer).writes = true := decide_eq_true writes
      rw [goesOn] at rested
      simp only [Part.cost, ↓reduceIte] at woken rested
      refine ⟨booked'.turns _, ?_⟩
      show (m.wake .writer).rest.bound < _
      omega
    case isFalse =>
      refine ⟨booked'.turns _, ?_⟩
      exact bound ▸ bound_rest_lt (l := m) head

/-- A reader that runs and can do nothing waits for the rest of a frame. -/
theorem unfinished_of_readStep? {a : Asking} (running : a.reader = .running)
    (rests : a.readStep? = none) :
    a.sending.shutdown = false ∧ Frame.scan a.limit a.sending.stream.inbox = .incomplete ∧
      a.sending.stream.ended = false := by
  rw [Asking.readStep?, if_neg (not_not_intro running)] at rests
  split at rests
  case isTrue => cases rests
  case isFalse working =>
    refine ⟨Bool.eq_false_iff.mpr working, ?_⟩
    rw [Asking.readStream?] at rests
    split at rests
    case h_1 waits => exact Stream.unfinished_of_waiting waits
    case h_2 | h_3 | h_4 => cases rests

/-- Taking replies leaves less to do, for a reader that looks for them finds something. -/
theorem load_takeReplies (booked : l.Booked) (running : l.asking.reader = .running)
    (looks : l.asking.sending.shutdown = true ∨ l.replyIntake.isReady = true ∨
      l.asking.sending.stream.ended = true) :
    Loopback.load
        { l with
          asking := l.takeReplies
          replyIntake := l.replyIntake.settled l.takeReplies.sending.stream.inbox } < l.load ∧
      l.takeReplies.initiator.pendingCount ≤ l.asking.initiator.pendingCount := by
  let start := l.asking.setStream (l.replyIntake.hand l.asking.sending.stream)
  have handed : start.load (l.answering.share + 2) =
      l.asking.load (l.answering.share + 2) + l.replyIntake.pieces.flatten.length := by
    have bytes : start.sending.stream.inbox.length = _ :=
      l.replyIntake.length_inbox_hand l.asking.sending.stream
    have same : start.sending.load (l.answering.share + 2) =
      l.asking.sending.load (l.answering.share + 2) := rfl
    rw [Asking.load, Asking.load, bytes, same]
    simp only [start, Asking.setStream]
    omega
  have total : Loopback.load
      { l with
        asking := l.takeReplies
        replyIntake := l.replyIntake.settled l.takeReplies.sending.stream.inbox }
        + l.asking.load (l.answering.share + 2) + l.replyIntake.pieces.flatten.length * 2 =
      l.load + l.takeReplies.load (l.answering.share + 2) := by
    simp only [Loopback.load, Intake.settled, List.flatten_nil, List.length_nil]
    omega
  have taken :
      l.takeReplies = if l.turns.left = 0 then start.readStep?.getD start else start.read := rfl
  cases step : start.readStep? with
  | none =>
      have same : l.takeReplies = start := by
        rw [taken, step, Asking.read, settle_of_none step]
        exact ite_self _
      obtain ⟨working, unfinished, isOpen⟩ := unfinished_of_readStep? (a := start) running step
      have ready : l.replyIntake.isReady = true :=
        (looks.resolve_left (Bool.eq_false_iff.mp working)).resolve_right
          (Bool.eq_false_iff.mp isOpen)
      have some := booked.replyIntake.length_pos ready unfinished
      rw [same] at total ⊢
      exact ⟨by omega, Nat.le_refl _⟩
  | some next =>
      have lower : l.takeReplies.load (l.answering.share + 2) <
            start.load (l.answering.share + 2) ∧
          l.takeReplies.initiator.pendingCount ≤ start.initiator.pendingCount := by
        rw [taken, step]
        split_ifs
        · exact Asking.load_readStep? _ step
        · exact Asking.load_read _ (by simp [step])
      exact ⟨by omega, lower.2⟩

theorem nearer_lookAtReplies (head : l.turns.awake.head? = some .reader) (booked : l.Booked)
    (shut : l.Shut) (running : l.asking.reader = .running)
    (looks : l.asking.sending.shutdown = true ∨ l.replyIntake.isReady = true ∨
      l.asking.sending.stream.ended = true) :
    l.lookAtReplies.Booked ∧ l.lookAtReplies.bound < l.bound := by
  have reads := l.reads_takeReplies
  obtain ⟨lower, fewer⟩ := load_takeReplies booked running looks
  unfold lookAtReplies
  dsimp only
  generalize l.takeReplies = asking at *
  let looked : Loopback :=
    { l with
      asking
      replyIntake := l.replyIntake.settled asking.sending.stream.inbox
      turns := l.turns.wakeDeadlines
        (l.asking.initiator.pendingCount - asking.initiator.pendingCount) }
  have head' : looked.turns.awake.head? = some .reader := Turns.head_wakeDeadlines head _
  have shut' : asking.status ≠ .running ∨ l.answering.status ≠ .running →
      l.requests.closed = true ∧ l.replies.closed = true := reads.status ▸ shut
  have booked' : looked.Booked := by
    refine ⟨booked.requests, booked.replies, reads.status ▸ booked.released, fun closed => ?_,
      booked.requestIntake, Intake.keeps_settled _ _⟩
    obtain ⟨inbox, same⟩ := reads.stream
    have closed : asking.sending.stream.writeClosed = true := closed
    rw [same] at closed
    exact booked.ends closed
  have nearer : looked.bound < l.bound := by
    have writes : looked.writes = l.writes := by
      show decide (asking.sending.writer.status = .running) = l.writes
      rw [reads.writer]
      rfl
    have before : l.bound = 16 * l.load + l.asking.initiator.pendingCount + l.turns.cost l.writes :=
      rfl
    have after : looked.bound = 16 * looked.load + asking.initiator.pendingCount
        + (l.turns.wakeDeadlines
          (l.asking.initiator.pendingCount - asking.initiator.pendingCount)).cost l.writes :=
      writes ▸ rfl
    have lower : looked.load < l.load := lower
    rw [Turns.cost_wakeDeadlines] at after
    omega
  split
  case isTrue halted =>
    obtain ⟨booked'', nearer'⟩ := nearer_finishAsking head' booked' shut' halted
    exact ⟨booked'', Nat.lt_trans nearer' nearer⟩
  case isFalse =>
    split
    case isTrue =>
      have deferred := bound_defer head'
      refine ⟨booked'.turns _, ?_⟩
      show looked.defer.bound < _
      omega
    case isFalse => exact ⟨booked', nearer⟩

/-- Reading some of the replies wakes a responder that waits for room. -/
theorem nearer_readReplies (booked : l.Booked) {replies : Pipe} {replyIntake : Intake}
    (read : l.replyIntake.read? l.replies = some (replies, replyIntake)) :
    let filled : Loopback := { l with replies, replyIntake, turns := l.turns.operate }
    filled.wakeForReplyRoom.Booked ∧ filled.wakeForReplyRoom.bound < l.bound := by
  obtain ⟨count, some, fewer, more⟩ := Intake.length_read? read
  have keeps := Intake.keeps_read? l.asking.sending.stream.inbox read
  obtain ⟨content, rfl⟩ := Intake.read?_eq_some read
  intro filled
  have nearer : filled.bound + 3 < l.bound := by
    have load : filled.load + count = l.load := by
      simp only [filled, Loopback.load, more, ← fewer]
      omega
    have before : l.bound = 16 * l.load + l.asking.initiator.pendingCount + l.turns.cost l.writes :=
      rfl
    have after : filled.bound =
        16 * filled.load + l.asking.initiator.pendingCount + l.turns.operate.cost l.writes := rfl
    have := Turns.cost_operate_le l.writes l.turns
    omega
  have woken := bound_wakeForReplyRoom filled
  obtain ⟨turns, same, -⟩ := wakeForReplyRoom_eq .reader filled
  refine ⟨?_, by omega⟩
  rw [same]
  refine ⟨booked.requests, fun waits => ?_, fun isOver => ⟨(booked.released isOver).1, rfl⟩,
    booked.ends, booked.requestIntake, keeps⟩
  rw [(booked.replies waits).1] at fewer
  simp only [List.length_nil] at fewer
  omega

theorem nearer_readerTurn (busy : l.Busy .reader) (booked : l.Booked) (shut : l.Shut) :
    l.readerTurn.Booked ∧ l.readerTurn.bound < l.bound := by
  unfold readerTurn
  split
  case isTrue halted => exact nearer_finishAsking busy.head booked shut halted
  case isFalse reading =>
    have reading : l.asking.reader = .running := Decidable.not_not.mp reading
    split
    case isTrue looks =>
      exact nearer_lookAtReplies busy.head booked shut reading (looks.imp_right .inl)
    case isFalse =>
      split
      case isTrue none =>
        have deferred := bound_defer busy.head
        have some : 0 < Turns.operations := by decide
        exact ⟨booked.turns _, by omega⟩
      case isFalse =>
        split
        case h_1 replies replyIntake read => exact nearer_readReplies booked read
        case h_2 none =>
          have empty := Intake.read?_eq_none none
          split
          case isTrue =>
            have booked' : Booked
                { l with
                  asking := l.asking.setStream { l.asking.sending.stream with ended := true } } :=
              ⟨booked.requests, booked.replies, booked.released, booked.ends, booked.requestIntake,
                booked.replyIntake⟩
            exact nearer_lookAtReplies busy.head booked' shut reading (.inr (.inr rfl))
          case isFalse isOpen =>
            refine ⟨⟨booked.requests, fun _ => ⟨empty, Bool.eq_false_iff.mpr isOpen⟩,
              booked.released, booked.ends, booked.requestIntake, booked.replyIntake⟩, ?_⟩
            let waiting : Loopback := { l with replies := { l.replies with readerWaits := true } }
            exact bound_rest_lt (l := waiting) busy.head

/-! ## The responder -/

/-- A responder that runs and can do nothing without a reply waits for the rest of a frame. -/
theorem unfinished_of_step? {a : Answering} (running : a.status = .running) (idle : a.unsent = [])
    (rests : a.step? = none) :
    a.shutdown = false ∧ Frame.scan a.limit a.stream.inbox = .incomplete ∧
      a.stream.ended = false := by
  rw [Answering.step?, if_neg (not_not_intro running), if_neg (not_not_intro idle),
    Answering.read?] at rests
  split at rests
  case isTrue => cases rests
  case isFalse working =>
    refine ⟨Bool.eq_false_iff.mpr working, ?_⟩
    split at rests
    case h_1 waits => exact Stream.unfinished_of_waiting waits
    case h_2 | h_3 | h_4 => cases rests

/-- Answering leaves less to do, unless the responder waits in the middle of a reply. -/
theorem load_answerRequests (booked : l.Booked) (running : l.answering.status = .running)
    (looks : l.answering.shutdown = true ∨ l.answering.unsent ≠ [] ∨
      l.requestIntake.isReady = true ∨ l.answering.stream.ended = true) :
    let start : Answering :=
      { l.answering with
        stream := l.replies.offer l.capacity (l.requestIntake.hand l.answering.stream) }
    let kept := l.requestIntake.pieces.flatten.length
    l.answerRequests.2.share = l.answering.share ∧
    l.answerRequests.2.load + l.turns.left ≤
      l.answering.load + kept * l.answering.share + l.answerRequests.1 ∧
    (l.answerRequests.2.load < l.answering.load + kept * (l.answering.share + 1) ∨
      l.answerRequests = (l.turns.left, start) ∧ l.answering.unsent ≠ []) := by
  intro start kept
  have handed : start.load = l.answering.load + kept * l.answering.share := by
    have bytes : start.stream.inbox.length = l.answering.stream.inbox.length + kept :=
      l.requestIntake.length_inbox_hand l.answering.stream
    have same : start.share = l.answering.share := rfl
    rw [Answering.load, bytes, same, Nat.add_mul, Answering.load]
    simp only [start, Pipe.offer, Intake.hand, Stream.feed]
    omega
  have more : kept * (l.answering.share + 1) = kept * l.answering.share + kept := Nat.mul_succ _ _
  obtain ⟨begun, same, share, moved⟩ : ∃ begun : Answering,
      l.answerRequests = begun.settleWithin l.turns.left ∧ begun.share = l.answering.share ∧
        (begun.load < start.load ∨
          begun = start ∧ (l.answering.unsent = [] → start.step? = none)) := by
    refine ⟨if start.unsent = [] then start.step?.getD start else start, rfl, ?_⟩
    split
    case isTrue =>
      cases step : start.step? with
      | none => exact ⟨rfl, .inr ⟨rfl, fun _ => rfl⟩⟩
      | some next =>
          obtain ⟨lower, share⟩ := Answering.load_step? step
          exact ⟨share, .inl lower⟩
    case isFalse writing => exact ⟨rfl, .inr ⟨rfl, fun idle => absurd idle writing⟩⟩
  obtain ⟨used, moved', share'⟩ := Answering.load_settleWithin l.turns.left begun
  rw [← same] at used moved' share'
  have still : l.answerRequests.2.load ≤ begun.load := by
    rcases moved' with still | lower
    · exact Nat.le_of_eq (congrArg (·.2.load) still)
    · exact Nat.le_of_lt lower
  refine ⟨share'.trans share, ?_, ?_⟩
  · rcases moved with lower | ⟨rfl, -⟩ <;> omega
  · rcases moved with lower | ⟨rfl, rests⟩
    · exact .inl (by omega)
    · rcases moved' with still | lower
      · by_cases idle : l.answering.unsent = []
        · obtain ⟨working, unfinished, isOpen⟩ :=
            unfinished_of_step? (a := start) running idle (rests idle)
          have ready : l.requestIntake.isReady = true :=
            (((looks.resolve_left (Bool.eq_false_iff.mp working)).resolve_left
              (not_not_intro idle))).resolve_right (Bool.eq_false_iff.mp isOpen)
          have some : 0 < kept := booked.requestIntake.length_pos ready unfinished
          exact .inl (by omega)
        · exact .inr ⟨still, idle⟩
      · exact .inl (by omega)

/-- What was answered is taken up by the pipe, where it counts as much. -/
theorem load_answered (l : Loopback) {answering : Answering}
    (share : answering.share = l.answering.share) (closed : Bool) :
    Loopback.load
      { l with
        answering := { answering with stream := { answering.stream with written := [] } }
        replies :=
          { l.replies with content := l.replies.content ++ answering.stream.written, closed }
        requestIntake := l.requestIntake.settled answering.stream.inbox }
        + l.answering.load + l.requestIntake.pieces.flatten.length * (l.answering.share + 1) =
      l.load + answering.load := by
  have collected := answering.load_collect
  have share' : Answering.share
      { answering with stream := { answering.stream with written := [] } } = l.answering.share :=
    share
  simp only [load, Intake.settled, List.flatten_nil, List.length_nil, List.length_append,
    Nat.add_mul, share'] at *
  omega

/-- Whom the responder wakes counts for less than what it has done. -/
theorem bound_worked (booked : l.Booked) (answering : Answering) (content : Bytes) (closed : Bool)
    (requestIntake : Intake) (left : Nat) :
    let moved : Loopback :=
      { l with answering, replies := { l.replies with content, closed }, requestIntake }
    let worked := wakeForReplies
      { l with
        answering, replies := { l.replies with content, closed }, requestIntake
        turns := { l.turns with left } }
    moved.load + l.turns.left ≤ l.load + left →
    (moved.load < l.load ∨
      left = l.turns.left ∧ moved.load ≤ l.load ∧ answering.status = .running ∧
        answering.unsent ≠ [] ∧ content = l.replies.content ∧ closed = l.replies.closed) →
    worked.bound + 12 ≤ l.bound ∨
      answering.status = .running ∧ answering.unsent ≠ [] ∧ worked.turns.left = left ∧
        worked.bound ≤ l.bound := by
  intro moved worked used lower
  let turned : Loopback := { moved with turns := { l.turns with left } }
  have cost : turned.turns.cost l.writes + (Turns.operations - l.turns.left) =
      l.turns.cost l.writes + (Turns.operations - left) := Turns.cost_left l.writes left l.turns
  have before : l.bound = 16 * l.load + l.asking.initiator.pendingCount + l.turns.cost l.writes :=
    rfl
  have after : turned.bound =
      16 * moved.load + l.asking.initiator.pendingCount + turned.turns.cost l.writes := rfl
  rcases lower with lower | ⟨rfl, equal, running, writing, rfl, rfl⟩
  · have woken : worked.bound ≤ turned.bound + 3 := bound_wakeForReplies turned
    exact .inl (by omega)
  · have same : worked = turned := wakeForReplies_of_quiet (l := turned) booked.replies
    refine .inr ⟨running, writing, ?_⟩
    rw [same]
    exact ⟨rfl, by omega⟩

/-- The responder has worked, or waits in the middle of a reply. -/
theorem nearer_worked (head : l.turns.awake.head? = some .responder) (booked : l.Booked)
    (shut : l.Shut) (answering : Answering) (content : Bytes) (closed : Bool)
    (requestIntake : Intake) (left : Nat) (keeps : requestIntake.Keeps answering.stream.inbox)
    (stays : l.replies.closed = true → closed = true)
    (full : answering.status = .running → left ≠ 0 → answering.unsent ≠ [] → closed = false) :
    let moved : Loopback :=
      { l with answering, replies := { l.replies with content, closed }, requestIntake }
    let worked := wakeForReplies
      { l with
        answering, replies := { l.replies with content, closed }, requestIntake
        turns := { l.turns with left } }
    let next := if answering.status ≠ .running then worked.closePipes.rest
      else if left = 0 then worked.defer
      else if answering.unsent ≠ [] then
        { worked with replies := { worked.replies with writerWaits := true } }.rest
      else worked
    moved.load + l.turns.left ≤ l.load + left →
    (moved.load < l.load ∨
      left = l.turns.left ∧ moved.load ≤ l.load ∧ answering.status = .running ∧
        answering.unsent ≠ [] ∧ content = l.replies.content ∧ closed = l.replies.closed) →
    next.Booked ∧ next.bound < l.bound := by
  intro moved worked next used lower
  let turned : Loopback := { moved with turns := { l.turns with left } }
  have near : worked.bound + 12 ≤ l.bound ∨
      answering.status = .running ∧ answering.unsent ≠ [] ∧ worked.turns.left = left ∧
        worked.bound ≤ l.bound :=
    bound_worked booked answering content closed requestIntake left used lower
  obtain ⟨readerWaits, turns, same, quiet, kept⟩ := wakeForReplies_eq .responder turned
  have same : worked = { turned with replies := { turned.replies with readerWaits }, turns } := same
  have asking : worked.asking = l.asking := by rw [same]
  have head' : worked.turns.awake.head? = some .responder := by
    rw [same]
    exact kept head
  have booked' : worked.Booked := by
    rw [same]
    exact ⟨booked.requests, quiet, booked.released, booked.ends, keeps, booked.replyIntake⟩
  clear_value worked
  show Booked (ite _ _ _) ∧ Loopback.bound (ite _ _ _) < _
  split
  case isTrue ended =>
    have nearer := near.resolve_right fun unchanged => ended unchanged.1
    have closing := bound_closePipes worked
    obtain ⟨turns', closes, kept'⟩ := closePipes_eq .responder worked
    rw [closes] at closing ⊢
    refine ⟨⟨(absurd · Bool.false_ne_true), (absurd · Bool.false_ne_true), fun _ => ⟨rfl, rfl⟩,
      fun _ => rfl, booked'.requestIntake, booked'.replyIntake⟩, ?_⟩
    exact Nat.lt_of_lt_of_le (bound_rest_lt (kept' head')) (Nat.le_trans closing nearer)
  case isFalse running =>
    split
    case isTrue none =>
      have deferred := bound_defer head'
      have some : 0 < Turns.operations := by decide
      exact ⟨booked'.turns _, by omega⟩
    case isFalse more =>
      split
      case isTrue writing =>
        refine ⟨⟨booked'.requests, booked'.replies, fun isOver => ?_, booked'.ends,
          booked'.requestIntake, booked'.replyIntake⟩, ?_⟩
        · have isOver : l.asking.status ≠ .running := asking ▸ isOver
          have isOpen := full (Decidable.not_not.mp running) more writing
          exact absurd (stays (shut (.inl isOver)).2) (Bool.eq_false_iff.mp isOpen)
        · let waiting : Loopback :=
            { worked with replies := { worked.replies with writerWaits := true } }
          have rested := bound_rest_lt (l := waiting) head'
          have : waiting.bound = worked.bound := rfl
          show waiting.rest.bound < _
          omega
      case isFalse idle =>
        have nearer := near.resolve_right fun unchanged => idle unchanged.2.1
        exact ⟨booked', by omega⟩

theorem nearer_work (sides : Sides l.asking l.answering)
    (head : l.turns.awake.head? = some .responder) (booked : l.Booked) (shut : l.Shut)
    (running : l.answering.status = .running)
    (looks : l.answering.shutdown = true ∨ l.answering.unsent ≠ [] ∨
      l.requestIntake.isReady = true ∨ l.answering.stream.ended = true) :
    l.work.Booked ∧ l.work.bound < l.bound := by
  obtain ⟨works, -⟩ := answerRequests_works sides
  have full := full_of_answerRequests sides
  obtain ⟨share, used, moved⟩ := load_answerRequests booked running looks
  unfold work
  dsimp only
  generalize l.answerRequests = result at *
  obtain ⟨left, answering⟩ := result
  dsimp only at *
  have total := l.load_answered share (l.replies.closed || answering.stream.writeClosed)
  have more : l.requestIntake.pieces.flatten.length * (l.answering.share + 1) =
      l.requestIntake.pieces.flatten.length * l.answering.share
        + l.requestIntake.pieces.flatten.length := Nat.mul_succ _ _
  refine nearer_worked head booked shut
    { answering with stream := { answering.stream with written := [] } }
    (l.replies.content ++ answering.stream.written)
    (l.replies.closed || answering.stream.writeClosed)
    (l.requestIntake.settled answering.stream.inbox) left (Intake.keeps_settled _ _)
    (fun closed => (congrArg (· || _) closed).trans (Bool.true_or _))
    (fun running more writing => (full running more writing).2) ?_ ?_
  · omega
  · rcases moved with lower | ⟨same, writing⟩
    · left
      omega
    · obtain ⟨rfl, rfl⟩ := Prod.mk.inj same
      refine .inr ⟨rfl, by omega, running, writing, ?_, ?_⟩
      · exact (congrArg (_ ++ ·) sides.answered).trans (List.append_nil _)
      · exact (congrArg (_ || ·) (works.isOpen running)).trans (Bool.or_false _)

/-- Reading some of the requests wakes a writer that waits for room. -/
theorem nearer_readRequests (booked : l.Booked) {requests : Pipe} {requestIntake : Intake}
    (read : l.requestIntake.read? l.requests = some (requests, requestIntake)) :
    let filled : Loopback := { l with requests, requestIntake, turns := l.turns.operate }
    filled.wakeForRequestRoom.Booked ∧ filled.wakeForRequestRoom.bound < l.bound := by
  obtain ⟨count, some, fewer, more⟩ := Intake.length_read? read
  have keeps := Intake.keeps_read? l.answering.stream.inbox read
  obtain ⟨content, rfl⟩ := Intake.read?_eq_some read
  intro filled
  have nearer : filled.bound + 3 < l.bound := by
    have load : filled.load + count = l.load := by
      simp only [filled, Loopback.load, more, ← fewer, Nat.add_mul, Nat.mul_succ]
      omega
    have before : l.bound = 16 * l.load + l.asking.initiator.pendingCount + l.turns.cost l.writes :=
      rfl
    have after : filled.bound =
        16 * filled.load + l.asking.initiator.pendingCount + l.turns.operate.cost l.writes := rfl
    have := Turns.cost_operate_le l.writes l.turns
    omega
  have woken := bound_wakeForRequestRoom filled
  obtain ⟨turns, same, -⟩ := wakeForRequestRoom_eq .responder filled
  refine ⟨?_, by omega⟩
  rw [same]
  refine ⟨fun waits => ?_, booked.replies, fun isOver => ⟨rfl, (booked.released isOver).2⟩,
    booked.ends, keeps, booked.replyIntake⟩
  rw [(booked.requests waits).1] at fewer
  simp only [List.length_nil] at fewer
  omega

theorem nearer_responderTurn (busy : l.Busy .responder) (booked : l.Booked) (shut : l.Shut) :
    l.responderTurn.Booked ∧ l.responderTurn.bound < l.bound := by
  unfold responderTurn
  split
  case isTrue => exact ⟨booked.turns _, bound_rest_lt busy.head⟩
  case isFalse running =>
    have running : l.answering.status = .running := Decidable.not_not.mp running
    split
    case isTrue looks =>
      exact nearer_work busy.sides busy.head booked shut running
        (looks.imp_right (·.imp_right .inl))
    case isFalse =>
      split
      case isTrue none =>
        have deferred := bound_defer busy.head
        have some : 0 < Turns.operations := by decide
        exact ⟨booked.turns _, by omega⟩
      case isFalse =>
        split
        case h_1 requests requestIntake read => exact nearer_readRequests booked read
        case h_2 none =>
          have empty := Intake.read?_eq_none none
          split
          case isTrue =>
            let ended : Loopback :=
              { l with
                answering :=
                  { l.answering with stream := { l.answering.stream with ended := true } } }
            have booked' : ended.Booked :=
              ⟨booked.requests, booked.replies, booked.released, booked.ends, booked.requestIntake,
                booked.replyIntake⟩
            have same := busy.sides
            have sides : Sides ended.asking ended.answering :=
              ⟨same.writer, same.asked, same.stopped, same.finished, same.isOpen, same.answered⟩
            exact nearer_work sides busy.head booked' shut running (.inr (.inr (.inr rfl)))
          case isFalse isOpen =>
            refine ⟨⟨fun _ => ⟨empty, Bool.eq_false_iff.mpr isOpen⟩, booked.replies,
              booked.released, booked.ends, booked.requestIntake, booked.replyIntake⟩, ?_⟩
            let waiting : Loopback := { l with requests := { l.requests with readerWaits := true } }
            exact bound_rest_lt (l := waiting) busy.head

end Loopback

end RoundTrip
