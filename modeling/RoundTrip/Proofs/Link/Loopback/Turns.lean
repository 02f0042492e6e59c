import RoundTrip.Proofs.Link.Loopback.Waking

/-!
# The turn of a part

Whichever part takes a turn, afterwards each part is to get a turn or has nothing to do: the writer
(`attended_writerTurn`), the reader (`attended_readerTurn`) and the responder
(`attended_responderTurn`).
-/

namespace RoundTrip

namespace Loopback

variable {l : Loopback}

/-! ## The initiator -/

/-- A responder that waits for requests does not miss them, nor the end of them. -/
theorem held_responder (held : l.Held .responder) (asking : Asking) (content : Bytes)
    (closed : Bool) :
    Held ({ l with asking, requests := { l.requests with content, closed } } :
      Loopback).wakeForRequests .responder := by
  rcases held with holds | gone | ⟨running, idle, working, few, waits, -⟩ | blocked
  · exact held_wakeForRequests (.inl holds)
  · exact held_wakeForRequests (.inr (.inl gone))
  · by_cases there : content = [] ∧ closed = false
    · exact held_wakeForRequests (.inr (.inr (.inl ⟨running, idle, working, few, waits, there⟩)))
    · refine .inl (holds_wakeForRequests waits ?_)
      by_cases empty : content = []
      · exact .inr (Bool.of_not_eq_false fun isOpen => there ⟨empty, isOpen⟩)
      · exact .inl empty
  · exact held_wakeForRequests (.inr (.inr (.inr blocked)))

/-- The writer has written: it waits for what is to follow or for room, or goes on later, or has
ended and wakes the reader. -/
theorem attended_wrote (busy : l.Busy .writer) (shut : l.Shut) {asking : Asking} {content : Bytes}
    {closed : Bool} {left : Nat} (sides : Sides asking l.answering)
    (reader : asking.reader = l.asking.reader) (status : asking.status = l.asking.status)
    (quiet : asking.sending.writer.status = .running →
      asking.sending.shutdown = l.asking.sending.shutdown)
    (stays : l.requests.closed = true → closed = true)
    (done : asking.sending.writer.status = .running → left ≠ 0 →
      (asking.sending.writer.unsent = [] ∧ asking.sending.writer.queue = [] ∧
        asking.initiator.outbound.queued = [] ∧ asking.sending.shutdown = false) ∨
      (asking.sending.writer.unsent ≠ [] ∧ l.capacity ≤ content.length ∧ closed = false)) :
    let written : Loopback := wakeForRequests
      { l with asking, requests := { l.requests with content, closed } }
    Attended (if asking.sending.writer.status ≠ .running then (written.wake .reader).rest
      else if left = 0 then written.defer
      else
        { written with
          requests := { written.requests with writerWaits := !written.writerIsIdle } }.rest) := by
  intro written
  have responder : written.Held .responder :=
    held_responder (busy.others .responder nofun) asking content closed
  have reading : asking.sending.writer.status = .running → written.Held .reader := fun running =>
    held_wakeForRequests ((busy.others .reader nofun).imp_right fun resting => by
      rcases resting with ⟨halted, -⟩ | ⟨reads, working, few, dry⟩
      · exact .inl ⟨reader ▸ halted, .inl running⟩
      · exact .inr ⟨reader.trans reads, (quiet running).trans working, few, dry⟩)
  obtain ⟨readerWaits, turns, same, head⟩ : ∃ readerWaits turns,
      written =
        { l with asking, requests := { l.requests with content, closed, readerWaits }, turns } ∧
      turns.awake.head? = some .writer := by
    obtain ⟨readerWaits, turns, same, -, kept⟩ := wakeForRequests_eq .writer _
    exact ⟨readerWaits, turns, same, kept busy.head⟩
  have shut' : l.asking.status ≠ .running ∨ l.answering.status ≠ .running →
      closed = true ∧ l.replies.closed = true := fun isOver => (shut isOver).imp_left stays
  rw [← status] at shut'
  clear_value written
  subst same
  split
  case isTrue ended =>
    exact Busy.rest (busy_writer sides (Turns.head_wake head .reader)
      (.inl (Turns.mem_wake .reader turns)) (responder.imp_left (Turns.holds_wake · .reader)))
      shut' (.inl ended)
  case isFalse running =>
    have running : asking.sending.writer.status = .running := Decidable.not_not.mp running
    split
    case isTrue => exact (busy_writer sides head (reading running) responder).defer shut'
    case isFalse more =>
      refine Busy.rest (busy_writer sides head (reading running) responder) shut' (.inr ?_)
      refine (done running more).imp (fun idle => ⟨running, idle⟩) fun ⟨writing, full, isOpen⟩ =>
        ⟨running, writing, ?_, full, isOpen⟩
      simp [writerIsIdle, writing]

/-- A writer that begins its turn. -/
theorem working_writer (sides : Sides l.asking l.answering) :
    Sending.Working (l.capacity - l.requests.content.length) l.requests.closed
      l.asking.sending.shutdown
      (l.asking.setStream (l.requests.offer l.capacity l.asking.sending.stream)).sending :=
  ⟨⟨sides.writer.senders, sides.writer.isOpen, sides.writer.asked⟩,
    Stream.offered_offer l.capacity l.requests sides.asked, fun _ => rfl⟩

theorem attended_writerTurn (busy : l.Busy .writer) (shut : l.Shut) : l.writerTurn.Attended := by
  have wrote := Asking.writeWithin_works (working_writer busy.sides) Turns.operations
  obtain ⟨-, -, stopped, finished, isOpen, answered⟩ := busy.sides
  unfold writerTurn
  dsimp only
  generalize Asking.writeWithin Turns.operations _ = result at wrote ⊢
  obtain ⟨left, asking⟩ := result
  obtain ⟨works, rests, queued, reader, status, ended⟩ := wrote
  have sides : Sides (asking.setStream { asking.sending.stream with written := [] })
      l.answering := by
    refine ⟨⟨works.senders, works.isOpen, works.asked⟩, rfl, fun halted => ?_,
      fun isOver => ended (finished (status ▸ isOver)), isOpen, answered⟩
    by_cases running : asking.sending.writer.status = .running
    · exact (works.quiet running).trans (stopped (reader ▸ halted))
    · exact works.asked running
  refine attended_wrote busy shut sides reader status works.quiet ?_ fun running more => ?_
  · exact fun closed => (congrArg (· || _) closed).trans (Bool.true_or _)
  · have running : asking.sending.writer.status = .running := running
    rcases Sending.rests_cases running (rests more) with ⟨writing, waits⟩ | ⟨idle, empty, working⟩
    · obtain ⟨isOpen, total⟩ := Stream.full_of_waiting works.offered waits
      refine .inr ⟨writing, ?_, ?_⟩
      · rw [List.length_append]
        omega
      · rw [isOpen, works.isOpen running]
        rfl
    · exact .inl ⟨idle, empty, queued, working⟩

/-- The reader has ended, and with the writer all is over. -/
theorem attended_finishAsking (sides : Sides l.asking l.answering) (shut : l.Shut)
    (head : l.turns.awake.head? = some .reader) (halted : l.asking.reader ≠ .running)
    (writer : l.Held .writer ∨ l.writerIsIdle = true) (responder : l.Held .responder) :
    l.finishAsking.rest.Attended := by
  obtain ⟨status, summaries, same, goesOn, ended⟩ := Asking.finish_eq halted
  let m : Loopback := { l with asking := { l.asking with status, summaries } }
  have sides' : Sides m.asking m.answering :=
    ⟨sides.writer, sides.asked, sides.stopped, fun isOver => (ended isOver).elim sides.finished id,
      sides.isOpen, sides.answered⟩
  have responder' : m.Held .responder := responder
  rw [finishAsking, same]
  split
  case isTrue isOver =>
    have gone : m.asking.sending.writer.status ≠ .running := sides'.finished isOver
    have writer' : m.closePipes.Held .writer := held_closePipes (.inr (.inl gone))
    have responder'' : m.closePipes.Held .responder := held_closePipes responder'
    obtain ⟨turns, closed, kept⟩ := closePipes_eq .reader m
    show m.closePipes.rest.Attended
    rw [closed] at writer' responder'' ⊢
    exact Busy.rest (busy_reader sides' (kept head) writer' responder'')
      (fun _ => ⟨rfl, rfl⟩) (.inl ⟨halted, .inr isOver⟩)
  case isFalse still =>
    have running : m.asking.sending.writer.status = .running :=
      (goesOn (Decidable.not_not.mp still)).2
    have shut' : m.Shut := fun isOver => shut (isOver.imp (fun isOver => absurd isOver still) id)
    split
    case isTrue =>
      exact Busy.rest (busy_reader sides' (Turns.head_wake head .writer)
        (.inl (Turns.mem_wake .writer l.turns))
        (responder'.imp_left (Turns.holds_wake · .writer))) shut' (.inl ⟨halted, .inl running⟩)
    case isFalse busy =>
      have writer' : l.Held .writer := writer.resolve_right busy
      exact Busy.rest (busy_reader sides' head writer' responder') shut'
        (.inl ⟨halted, .inl running⟩)

theorem sides_of_reads {asking next : Asking} {answering : Answering}
    (sides : Sides asking answering) (reads : asking.Reads next) : Sides next answering := by
  obtain ⟨inbox, stream⟩ := reads.stream
  have stopped := reads.stopped sides.stopped
  refine ⟨⟨?_, fun running => ?_, fun ended => ?_⟩, ?_, stopped, ?_, sides.isOpen, sides.answered⟩
  · rw [reads.writer]
    exact sides.writer.senders
  · rw [stream]
    exact sides.writer.isOpen (reads.writer ▸ running)
  · by_cases running : next.reader = .running
    · rw [(reads.runs running).2]
      exact sides.writer.asked (reads.writer ▸ ended)
    · exact stopped running
  · rw [stream]
    exact sides.asked
  · rw [reads.status, reads.writer]
    exact sides.finished

/-- Taking replies is reading. -/
theorem reads_takeReplies (l : Loopback) : l.asking.Reads l.takeReplies := by
  let start := l.asking.setStream (l.replyIntake.hand l.asking.sending.stream)
  have handed : l.asking.Reads start :=
    ⟨rfl, ⟨_, rfl⟩, rfl, rfl, id, fun running => ⟨running, rfl⟩⟩
  refine handed.trans ?_
  show start.Reads (if l.turns.left = 0 then start.readStep?.getD start else start.read)
  split
  · cases step : start.readStep? with
    | none => exact .refl start
    | some next => exact Asking.reads_readStep? step
  · exact Asking.reads_settle _ start

theorem attended_lookAtReplies (busy : l.Busy .reader) (shut : l.Shut) :
    l.lookAtReplies.Attended := by
  have reads := l.reads_takeReplies
  unfold lookAtReplies
  dsimp only
  generalize l.takeReplies = asking at reads ⊢
  have sides := sides_of_reads busy.sides reads
  have shut' : asking.status ≠ .running ∨ l.answering.status ≠ .running →
      l.requests.closed = true ∧ l.replies.closed = true := reads.status ▸ shut
  split
  case isTrue halted =>
    refine attended_finishAsking sides shut' (Turns.head_wakeDeadlines busy.head _) halted ?_ ?_
    · rcases busy.others .writer nofun with holds | gone | ⟨running, idle, -⟩ | blocked
      · exact .inl (.inl (Turns.holds_wakeDeadlines holds _))
      · exact .inl (.inr (.inl (reads.writer ▸ gone)))
      · refine .inr ?_
        simp [writerIsIdle, reads.writer, running, idle]
      · exact .inl (.inr (.inr (.inr (reads.writer ▸ blocked))))
    · exact (busy.others .responder nofun).imp_left (Turns.holds_wakeDeadlines · _)
  case isFalse reading =>
    obtain ⟨-, quiet⟩ := reads.runs (Decidable.not_not.mp reading)
    have busy' : Busy .reader
        { l with
          asking
          replyIntake := l.replyIntake.settled asking.sending.stream.inbox
          turns := l.turns.wakeDeadlines
            (l.asking.initiator.pendingCount - asking.initiator.pendingCount) } := by
      refine busy_reader sides (Turns.head_wakeDeadlines busy.head _) ?_ ?_
      · refine (busy.others .writer nofun).imp (Turns.holds_wakeDeadlines · _) fun rests => ?_
        show asking.sending.writer.status ≠ .running ∨ _ ∨ _
        rw [reads.writer, reads.outbound, quiet]
        exact rests
      · exact (busy.others .responder nofun).imp_left (Turns.holds_wakeDeadlines · _)
    split
    · exact busy'.defer shut'
    · exact busy'.goOn shut'

/-- A responder that waits for room for replies does not miss it. -/
theorem held_responder_of_room (held : l.Held .responder) (content : Bytes) (replyIntake : Intake)
    (turns : Turns) (kept : l.turns.Holds .responder → turns.Holds .responder) :
    Held ({ l with replies := { l.replies with content }, replyIntake, turns } :
      Loopback).wakeForReplyRoom .responder := by
  rcases held with holds | gone | waits | ⟨-, -, waits, -⟩
  · exact held_wakeForReplyRoom (.inl (kept holds))
  · exact held_wakeForReplyRoom (.inr (.inl gone))
  · exact held_wakeForReplyRoom (.inr (.inr (.inl waits)))
  · exact .inl (holds_wakeForReplyRoom waits)

theorem attended_readerTurn (busy : l.Busy .reader) (shut : l.Shut) : l.readerTurn.Attended := by
  have writer : l.Held .writer := busy.others .writer nofun
  have responder : l.Held .responder := busy.others .responder nofun
  unfold readerTurn
  split
  case isTrue halted =>
    exact attended_finishAsking busy.sides shut busy.head halted (.inl writer) responder
  case isFalse reading =>
    have reading : l.asking.reader = .running := Decidable.not_not.mp reading
    split
    case isTrue => exact attended_lookAtReplies busy shut
    case isFalse waits =>
      rw [not_or, Bool.not_eq_true, Bool.not_eq_true] at waits
      split
      case isTrue => exact busy.defer shut
      case isFalse =>
        split
        case h_1 replies replyIntake read =>
          obtain ⟨content, rfl⟩ := Intake.read?_eq_some read
          let filled : Loopback :=
            { l with
              replies := { l.replies with content }
              replyIntake
              turns := l.turns.operate }
          have writer' : filled.wakeForReplyRoom.Held .writer := held_wakeForReplyRoom writer
          have responder' : filled.wakeForReplyRoom.Held .responder :=
            held_responder_of_room responder content replyIntake l.turns.operate id
          obtain ⟨turns, same, kept⟩ := wakeForReplyRoom_eq .reader filled
          show filled.wakeForReplyRoom.Attended
          rw [same] at responder' writer' ⊢
          exact Busy.goOn (busy_reader busy.sides (kept busy.head) writer' responder') shut
        case h_2 none =>
          have empty := Intake.read?_eq_none none
          split
          case isTrue =>
            have same := busy.sides
            have sides : Sides (l.asking.setStream { l.asking.sending.stream with ended := true })
                l.answering :=
              ⟨⟨same.writer.senders, same.writer.isOpen, same.writer.asked⟩, same.asked,
                same.stopped, same.finished, same.isOpen, same.answered⟩
            exact attended_lookAtReplies (busy_reader sides busy.head writer responder) shut
          case isFalse isOpen =>
            exact Busy.rest (busy_reader busy.sides busy.head writer responder) shut
              (.inr ⟨reading, waits.1, waits.2, rfl, empty, Bool.eq_false_iff.mpr isOpen⟩)

/-! ## The responder -/

/-- A reader that waits for replies does not miss them, nor the end of them. -/
theorem held_reader (held : l.Held .reader) (answering : Answering) (content : Bytes)
    (closed : Bool) (requestIntake : Intake) (left : Nat) :
    Held ({ l with
      answering, replies := { l.replies with content, closed }, requestIntake
      turns := { l.turns with left } } : Loopback).wakeForReplies .reader := by
  rcases held with holds | halted | ⟨reading, working, few, waits, -⟩
  · exact held_wakeForReplies (.inl holds)
  · exact held_wakeForReplies (.inr (.inl halted))
  · by_cases there : content = [] ∧ closed = false
    · exact held_wakeForReplies (.inr (.inr ⟨reading, working, few, waits, there⟩))
    · refine .inl (holds_wakeForReplies waits ?_)
      by_cases empty : content = []
      · exact .inr (Bool.of_not_eq_false fun isOpen => there ⟨empty, isOpen⟩)
      · exact .inl empty

/-- The responder has worked: it has ended and closes both pipes, or goes on later or at once, or
waits for room. -/
theorem attended_worked (busy : l.Busy .responder) (shut : l.Shut) (answering : Answering)
    (content : Bytes) (closed : Bool) (requestIntake : Intake) {left : Nat}
    (sides : Sides l.asking answering) (stays : l.replies.closed = true → closed = true)
    (done : answering.status = .running → left ≠ 0 → answering.unsent ≠ [] →
      l.capacity ≤ content.length ∧ closed = false) :
    let worked : Loopback := wakeForReplies
      { l with
        answering, replies := { l.replies with content, closed }, requestIntake
        turns := { l.turns with left } }
    Attended (if answering.status ≠ .running then worked.closePipes.rest
      else if left = 0 then worked.defer
      else if answering.unsent ≠ [] then
        { worked with replies := { worked.replies with writerWaits := true } }.rest
      else worked) := by
  intro worked
  have reader : worked.Held .reader :=
    held_reader (busy.others .reader nofun) answering content closed requestIntake left
  have still : Held
      { l with
        answering, replies := { l.replies with content, closed }, requestIntake
        turns := { l.turns with left } } .writer := busy.others .writer nofun
  have writer : worked.Held .writer := held_wakeForReplies still
  obtain ⟨readerWaits, turns, same, head⟩ : ∃ readerWaits turns,
      worked =
        { l with
          answering, replies := { l.replies with content, closed, readerWaits }, requestIntake
          turns } ∧
      turns.awake.head? = some .responder := by
    obtain ⟨readerWaits, turns, same, -, kept⟩ := wakeForReplies_eq .responder _
    exact ⟨readerWaits, turns, same, kept busy.head⟩
  clear_value worked
  subst same
  split
  case isTrue ended =>
    have writer' := held_closePipes writer
    have reader' := held_closePipes reader
    obtain ⟨turns', same, kept⟩ :=
      closePipes_eq .responder
        { l with
          answering, replies := { l.replies with content, closed, readerWaits }, requestIntake
          turns }
    rw [same] at writer' reader' ⊢
    exact Busy.rest (busy_responder sides (kept head) writer' reader')
      (fun _ => ⟨rfl, rfl⟩) (.inl ended)
  case isFalse running =>
    have running : answering.status = .running := Decidable.not_not.mp running
    have shut' : l.asking.status ≠ .running ∨ answering.status ≠ .running →
        l.requests.closed = true ∧ closed = true := fun isOver =>
      (shut (.inl (isOver.resolve_right (not_not_intro running)))).imp_right stays
    split
    case isTrue => exact (busy_responder sides head writer reader).defer shut'
    case isFalse more =>
      split
      case isTrue writing =>
        obtain ⟨full, isOpen⟩ := done running more writing
        exact Busy.rest (busy_responder sides head writer reader) shut'
          (.inr (.inr ⟨running, writing, rfl, full, isOpen⟩))
      case isFalse => exact (busy_responder sides head writer reader).goOn shut'

/-- What was answered is over the pipe of replies, and with operations left the responder can do
nothing more. -/
theorem answerRequests_works (sides : Sides l.asking l.answering) :
    l.answerRequests.2.Working (l.capacity - l.replies.content.length) l.replies.closed ∧
      (l.answerRequests.1 ≠ 0 → l.answerRequests.2.step? = none) := by
  let start : Answering :=
    { l.answering with
      stream := l.replies.offer l.capacity (l.requestIntake.hand l.answering.stream) }
  have offered : start.Working (l.capacity - l.replies.content.length) l.replies.closed :=
    ⟨Stream.offered_offer l.capacity l.replies sides.answered, sides.isOpen⟩
  refine Answering.settleWithin_works ?_ l.turns.left
  split
  · cases step : start.step? with
    | none => exact offered
    | some next => exact (Answering.working_step? offered step).1
  · exact offered

/-- A responder in the middle of a reply finds the pipe open and full. -/
theorem full_of_answerRequests (sides : Sides l.asking l.answering)
    (running : l.answerRequests.2.status = .running) (more : l.answerRequests.1 ≠ 0)
    (writing : l.answerRequests.2.unsent ≠ []) :
    l.capacity ≤ l.replies.content.length + l.answerRequests.2.stream.written.length ∧
      (l.replies.closed || l.answerRequests.2.stream.writeClosed) = false := by
  obtain ⟨works, rests⟩ := answerRequests_works sides
  obtain ⟨isOpen, total⟩ := Stream.full_of_waiting works.offered
    (Answering.waiting_of_rests running writing (rests more))
  refine ⟨by omega, ?_⟩
  rw [isOpen, works.isOpen running]
  rfl

theorem attended_work (busy : l.Busy .responder) (shut : l.Shut) : l.work.Attended := by
  obtain ⟨works, -⟩ := answerRequests_works busy.sides
  have full := full_of_answerRequests busy.sides
  obtain ⟨writer, asked, stopped, finished, -, -⟩ := busy.sides
  unfold work
  dsimp only
  generalize l.answerRequests = result at works full ⊢
  obtain ⟨left, answering⟩ := result
  dsimp only at works full ⊢
  refine attended_worked busy shut
    { answering with stream := { answering.stream with written := [] } }
    (l.replies.content ++ answering.stream.written)
    (l.replies.closed || answering.stream.writeClosed)
    (l.requestIntake.settled answering.stream.inbox)
    ⟨writer, asked, stopped, finished, works.isOpen, rfl⟩ ?_ ?_
  · exact fun closed => (congrArg (· || _) closed).trans (Bool.true_or _)
  · rw [List.length_append]
    exact full

/-- A writer that waits for room for requests does not miss it. -/
theorem held_writer_of_room (held : l.Held .writer) (content : Bytes) (requestIntake : Intake)
    (turns : Turns) (kept : l.turns.Holds .writer → turns.Holds .writer) :
    Held ({ l with requests := { l.requests with content }, requestIntake, turns } :
      Loopback).wakeForRequestRoom .writer := by
  rcases held with holds | gone | idle | ⟨-, -, waits, -⟩
  · exact held_wakeForRequestRoom (.inl (kept holds))
  · exact held_wakeForRequestRoom (.inr (.inl gone))
  · exact held_wakeForRequestRoom (.inr (.inr (.inl idle)))
  · exact .inl (holds_wakeForRequestRoom waits)

theorem attended_responderTurn (busy : l.Busy .responder) (shut : l.Shut) :
    l.responderTurn.Attended := by
  have writer : l.Held .writer := busy.others .writer nofun
  have reader : l.Held .reader := busy.others .reader nofun
  unfold responderTurn
  split
  case isTrue ended => exact busy.rest shut (.inl ended)
  case isFalse running =>
    have running : l.answering.status = .running := Decidable.not_not.mp running
    split
    case isTrue => exact attended_work busy shut
    case isFalse waits =>
      obtain ⟨working, idle, few⟩ : l.answering.shutdown = false ∧ l.answering.unsent = [] ∧
          l.requestIntake.isReady = false := by simpa using waits
      split
      case isTrue => exact busy.defer shut
      case isFalse =>
        split
        case h_1 requests requestIntake read =>
          obtain ⟨content, rfl⟩ := Intake.read?_eq_some read
          let filled : Loopback :=
            { l with
              requests := { l.requests with content }
              requestIntake
              turns := l.turns.operate }
          have writer' : filled.wakeForRequestRoom.Held .writer :=
            held_writer_of_room writer content requestIntake l.turns.operate id
          have reader' : filled.wakeForRequestRoom.Held .reader := held_wakeForRequestRoom reader
          obtain ⟨turns, same, kept⟩ := wakeForRequestRoom_eq .responder filled
          show filled.wakeForRequestRoom.Attended
          rw [same] at writer' reader' ⊢
          exact Busy.goOn (busy_responder busy.sides (kept busy.head) writer' reader') shut
        case h_2 none =>
          have empty := Intake.read?_eq_none none
          split
          case isTrue =>
            have same := busy.sides
            have sides : Sides l.asking
                { l.answering with stream := { l.answering.stream with ended := true } } :=
              ⟨same.writer, same.asked, same.stopped, same.finished, same.isOpen, same.answered⟩
            exact attended_work (busy_responder sides busy.head writer reader) shut
          case isFalse isOpen =>
            exact Busy.rest (busy_responder busy.sides busy.head writer reader) shut
              (.inr (.inl ⟨running, idle, working, few, rfl, empty, Bool.eq_false_iff.mpr isOpen⟩))

end Loopback

end RoundTrip
