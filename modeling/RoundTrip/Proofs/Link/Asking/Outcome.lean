import RoundTrip.Proofs.Link.Asking.Driving

/-!
# How the work on a stream ends

What can end the reader, and with which outcome, is said once (`Asking.Ending`); until it
happens nothing ends the reader (`reader_run_iff`), and then it has ended for good
(`run_of_ending`). What every activity keeps is that the frames that were heard and the bytes
that wait are what has arrived, and that the initiator is closed just if the reader has ended
(`Driven`).

Main result: frames are heard in order up to the first ending, which decides the outcome and
leaves no measurement without a result, whatever arrives and whoever comes first
(`work_ends_in_order`).
-/

namespace RoundTrip

namespace Asking

/-- What ends the reader, and its outcome. -/
inductive Ending (a : Asking) : Activity → Status → Prop
  /-- A frame names a request that is not outstanding. -/
  | unknown {payload rest : Bytes} {id : CorrelationId} :
      a.sending.stream.inbox = Frame.ofPayload payload ++ rest →
      Frame.Admits a.limit payload.length → Word.littleEndian id <+: payload →
      (∀ entry ∈ a.initiator.ledger.table.entries, entry.id ≠ id) →
      Ending a .read (.failed (.violation id))
  /-- A length word is above the limit. -/
  | oversized {size : Nat} : Frame.Oversized a.limit size a.sending.stream.inbox →
      Ending a .read (.failed (.oversized size))
  /-- Reading fails. -/
  | broken {reason : String} : Frame.Unfinished a.limit a.sending.stream.inbox →
      a.sending.stream.readFailure = some reason → Ending a .read (.failed (.io reason))
  /-- The stream ends inside a frame. -/
  | truncated : Frame.Unfinished a.limit a.sending.stream.inbox →
      a.sending.stream.readFailure = none → a.sending.stream.ended = true →
      a.sending.stream.inbox ≠ [] → Ending a .read (.failed (.io "bytes remaining on stream"))
  /-- The stream ends between two frames. -/
  | atEnd : a.sending.stream.readFailure = none → a.sending.stream.ended = true →
      a.sending.stream.inbox = [] → Ending a .read .finished
  | shutdown : a.sending.shutdown = true → Ending a .heed .finished

/-- Nothing has ended the reader. -/
def Undisturbed : Asking → List Activity → Prop
  | _, [] => True
  | a, activity :: rest =>
      (∀ outcome, ¬ Ending a activity outcome) ∧ (a.act activity).Undisturbed rest

variable {a : Asking} {activity : Activity} {outcome : Status}

theorem Ending.ne_running (ending : Ending a activity outcome) : outcome ≠ .running := by
  cases ending <;> nofun

/-! ## What ends the reader -/

/-- A frame that names no outstanding request settles nothing. -/
theorem ledger_of_unknown (sound : a.initiator.Sound) {payload : Bytes} {id : CorrelationId}
    (named : Word.littleEndian id <+: payload)
    (unknown : ∀ entry ∈ a.initiator.ledger.table.entries, entry.id ≠ id) :
    (a.initiator.act (.frame payload)).ledger = a.initiator.ledger := by
  rcases Initiator.onFrame_cases sound payload with
    ⟨-, same⟩ | ⟨_, -, -, same⟩ | ⟨entry, member, also, -⟩
  · rw [Initiator.act, same]
  · rw [Initiator.act, same]
  · exact absurd (CorrelationId.eq_of_prefix also named) (unknown entry member)

theorem next_eq (readable : a.sending.stream.unreadable = false) :
    a.sending.stream.next a.limit =
      match Frame.scan a.limit a.sending.stream.inbox with
      | .frame payload rest => .frame payload rest
      | .oversized size => .failed (.oversized size)
      | .incomplete =>
          match a.sending.stream.readFailure with
          | some reason => .failed (.io reason)
          | none =>
              if ¬ a.sending.stream.ended then .waiting
              else if a.sending.stream.inbox = [] then .finished
              else .failed .truncated :=
  if_neg (by simp [readable])

/-- What ends the reader stops it, before anything is settled. -/
theorem act_of_ending (sound : a.initiator.Sound) (running : a.reader = .running)
    (readable : a.sending.stream.unreadable = false) (ending : Ending a activity outcome) :
    ∃ b : Asking, a.act activity = b.stop outcome ∧ b.initiator.Sound ∧
      b.initiator.ledger = a.initiator.ledger := by
  cases ending with
  | shutdown asked => exact ⟨a, by rw [act, if_pos ⟨running, asked⟩], sound, rfl⟩
  | @unknown payload rest id front admitted named unknown =>
      have scan := Frame.scan_eq_frame_iff.mpr ⟨front, admitted⟩
      refine ⟨a.taken payload rest, ?_, Initiator.sound_act sound (.frame payload),
        ledger_of_unknown sound named unknown⟩
      rw [act_read running, next_eq readable, scan]
      rcases takeFrame_cases sound payload rest with ⟨other, alsoNamed, -, same⟩ | ⟨known, -⟩
      · simp only [same]
        rw [CorrelationId.eq_of_prefix named alsoNamed]
      · obtain ⟨entry, member, same⟩ := known id named
        exact absurd same (unknown entry member)
  | oversized oversized =>
      refine ⟨a, ?_, sound, rfl⟩
      rw [act_read running, next_eq readable, Frame.scan_eq_oversized_iff.mpr oversized]
  | broken unfinished fails =>
      refine ⟨a, ?_, sound, rfl⟩
      rw [act_read running, next_eq readable, Frame.scan_eq_incomplete_iff.mpr unfinished, fails]
  | truncated unfinished fails ended more =>
      refine ⟨a, ?_, sound, rfl⟩
      rw [act_read running, next_eq readable, Frame.scan_eq_incomplete_iff.mpr unfinished, fails]
      simp only [ended, more, not_true, ↓reduceIte]
      rfl
  | atEnd fails ended empty =>
      refine ⟨a, ?_, sound, rfl⟩
      have unfinished := empty ▸ Frame.unfinished_nil a.limit
      rw [act_read running, next_eq readable, Frame.scan_eq_incomplete_iff.mpr unfinished, fails]
      simp only [ended, empty, not_true, ↓reduceIte]

theorem reader_of_ending (sound : a.initiator.Sound) (running : a.reader = .running)
    (readable : a.sending.stream.unreadable = false) (ending : Ending a activity outcome) :
    (a.act activity).reader = outcome := by
  obtain ⟨b, same, -, -⟩ := act_of_ending sound running readable ending
  rw [same]
  rfl

/-- What is unsettled at the end fails with it. -/
theorem progress?_of_ending (sound : a.initiator.Sound) (running : a.reader = .running)
    (readable : a.sending.stream.unreadable = false) (ending : Ending a activity outcome)
    {slot : Nat} (pending : a.initiator.progress? slot = some .pending) :
    (a.act activity).initiator.progress? slot = some (.settled (.failed .closed)) := by
  obtain ⟨b, same, soundBefore, ledger⟩ := act_of_ending sound running readable ending
  rw [Initiator.progress?, Initiator.measurements, ← ledger] at pending
  rw [same]
  exact Initiator.progress?_onClose soundBefore pending

/-- Nothing else ends it. -/
theorem ending_of_reader (sound : a.initiator.Sound) (running : a.reader = .running)
    (readable : a.sending.stream.unreadable = false) (ends : (a.act activity).reader ≠ .running) :
    Ending a activity (a.act activity).reader := by
  cases activity with
  | read =>
      rw [act_read running, next_eq readable] at ends ⊢
      cases scan : Frame.scan a.limit a.sending.stream.inbox with
      | oversized size => exact .oversized (Frame.scan_eq_oversized_iff.mp scan)
      | frame payload rest =>
          obtain ⟨front, admitted⟩ := Frame.scan_eq_frame_iff.mp scan
          rcases takeFrame_cases sound payload rest with ⟨id, named, unknown, same⟩ | ⟨-, same⟩
          · simp only [same]
            exact .unknown front admitted named unknown
          · simp only [scan, same] at ends
            exact absurd running ends
      | incomplete =>
          have unfinished := Frame.scan_eq_incomplete_iff.mp scan
          simp only [scan] at ends ⊢
          cases fails : a.sending.stream.readFailure with
          | some reason => exact .broken unfinished fails
          | none =>
              cases ended : a.sending.stream.ended with
              | false =>
                  simp only [fails, ended] at ends
                  exact absurd running ends
              | true =>
                  by_cases empty : a.sending.stream.inbox = []
                  · simp only [not_true, ↓reduceIte, empty]
                    exact .atEnd fails ended empty
                  · simp only [not_true, ↓reduceIte, empty]
                    exact .truncated unfinished fails ended empty
  | heed =>
      rw [act] at ends ⊢
      split at ends
      case isTrue both =>
        rw [if_pos both]
        exact .shutdown both.2
      case isFalse => exact absurd running ends
  | finish =>
      rw [act, finish] at ends
      split at ends <;> exact absurd running ends
  | _ => exact absurd running ends

/-! ## What holds at any time -/

/-- So many bytes have arrived, these frames were heard, and a caller has asked for a shutdown
or not. -/
structure Driven (e : Exchange) (bytes : Bytes) (frames : List Bytes) (asked : Bool) (a : Asking) :
    Prop where
  sound : a.initiator.Sound
  limit : a.limit = e.maxFrameSize
  readable : a.sending.stream.unreadable = false
  whole : bytes = Frame.row frames ++ a.sending.stream.inbox
  admitted : ∀ payload ∈ frames, Frame.Admits e.maxFrameSize payload.length
  closed : a.initiator.isClosed = true ↔ a.reader ≠ .running
  shutdown : a.reader ≠ .running → a.sending.shutdown = true
  cause : a.reader = .running →
    (a.sending.shutdown = true ↔ asked = true ∨ ∃ fault, a.sending.writer.status = .failed fault)
  concludes : a.status ≠ .running → a.reader ≠ .running ∧ a.sending.writer.status ≠ .running ∧
    a.status = a.reader.and a.sending.writer.status

variable {e : Exchange} {bytes : Bytes} {frames : List Bytes} {asked : Bool}

theorem driven_start (e : Exchange) : Driven e [] [] false (ofExchange e) where
  sound := Initiator.sound_start e.uploadSize e.timeout 0
  limit := rfl
  readable := rfl
  whole := rfl
  admitted := nofun
  closed := by simp [ofExchange, Initiator.isClosed]
  shutdown := fun ended => absurd rfl ended
  cause := fun _ => by simp [ofExchange]
  concludes := fun ended => absurd rfl ended

/-- Every activity keeps the initiator sound, and closes it just if it ends the reader. -/
theorem closed_act (driven : Driven e bytes frames asked a) (activity : Activity) :
    (a.act activity).initiator.Sound ∧
      ((a.act activity).initiator.isClosed = true ↔ (a.act activity).reader ≠ .running) := by
  rw [initiator_act driven.sound activity]
  refine ⟨Initiator.sound_moves driven.sound _, ?_⟩
  rw [Initiator.isClosed_moves driven.sound, Bool.or_eq_true, driven.closed, decide_eq_true_iff,
    close_mem_motions]
  by_cases running : a.reader = .running
  · simp [running]
  · simp [running, (reader_act_of_ended running activity).1]

/-- Where the reader goes on as before, all goes on. -/
theorem driven_of_follows (driven : Driven e bytes frames asked a) {next : Asking}
    (sound : next.initiator.Sound) (closed : next.initiator.isClosed = true ↔ next.reader ≠ .running)
    (follows : a.sending.Follows next.sending) (limit : next.limit = a.limit)
    (reader : next.reader = a.reader) (status : next.status = a.status) :
    Driven e bytes frames asked next where
  sound := sound
  limit := limit.trans driven.limit
  readable := follows.unreadable.trans driven.readable
  whole := follows.inbox ▸ driven.whole
  admitted := driven.admitted
  closed := closed
  shutdown ended := by
    have before := driven.shutdown (reader ▸ ended)
    by_cases running : a.sending.writer.status = .running
    · exact (follows.shutdown running).mpr (.inl before)
    · exact (follows.stopped running).1.trans before
  cause reads := by
    have before := driven.cause (reader ▸ reads)
    by_cases running : a.sending.writer.status = .running
    · rw [follows.shutdown running, before, running]
      simp
    · rw [(follows.stopped running).1, (follows.stopped running).2]
      exact before
  concludes ended := by
    obtain ⟨stopped, written, both⟩ := driven.concludes (status ▸ ended)
    rw [reader, status, (follows.stopped written).2]
    exact ⟨stopped, written, both⟩

/-- The end of the reader. -/
theorem driven_stop (driven : Driven e bytes frames asked a) (running : a.reader = .running)
    {status : Status} (ends : status ≠ .running) : Driven e bytes frames asked (a.stop status) where
  sound := Initiator.sound_act driven.sound .close
  limit := driven.limit
  readable := driven.readable
  whole := driven.whole
  admitted := driven.admitted
  closed := by
    show (a.initiator.act .close).isClosed = true ↔ status ≠ .running
    rw [Initiator.isClosed_act driven.sound]
    simp [ends]
  shutdown _ := rfl
  cause reads := absurd reads ends
  concludes ended := absurd running (driven.concludes ended).1

theorem driven_taken (driven : Driven e bytes frames asked a) {payload rest : Bytes}
    (front : a.sending.stream.inbox = Frame.ofPayload payload ++ rest)
    (admitted : Frame.Admits a.limit payload.length) :
    Driven e bytes (frames ++ [payload]) asked (a.taken payload rest) where
  sound := Initiator.sound_act driven.sound (.frame payload)
  limit := driven.limit
  readable := driven.readable
  whole := by simp [driven.whole, front, taken]
  admitted other member := by
    rcases List.mem_append.mp member with before | last
    · exact driven.admitted other before
    · rw [List.mem_singleton.mp last, ← driven.limit]
      exact admitted
  closed := by
    show (a.initiator.act (.frame payload)).isClosed = true ↔ a.reader ≠ .running
    rw [Initiator.isClosed_act driven.sound]
    simpa using driven.closed
  shutdown := driven.shutdown
  cause := driven.cause
  concludes := driven.concludes

theorem driven_read (driven : Driven e bytes frames asked a) :
    Driven e bytes (frames ++ (a.hears? .read).toList) asked (a.act .read) := by
  rw [hears?]
  cases reader : a.reader with
  | finished | failed =>
      rw [act, if_neg (by simp [reader])]
      simpa using driven
  | running =>
      rw [act_read reader, next_eq driven.readable]
      cases scan : Frame.scan a.limit a.sending.stream.inbox with
      | oversized size => simpa using driven_stop driven reader (by simp)
      | frame payload rest =>
          obtain ⟨front, admitted⟩ := Frame.scan_eq_frame_iff.mp scan
          have taken := driven_taken driven front admitted
          rcases takeFrame_cases driven.sound payload rest with ⟨id, -, -, same⟩ | ⟨-, same⟩
          · simp only [same]
            exact driven_stop taken reader (by simp)
          · simp only [same]
            exact taken
      | incomplete =>
          cases a.sending.stream.readFailure with
          | some reason => simpa using driven_stop driven reader (by simp)
          | none =>
              cases a.sending.stream.ended with
              | false => simpa using driven
              | true =>
                  by_cases empty : a.sending.stream.inbox = []
                  · have stopped := driven_stop driven reader (by simp : Status.finished ≠ .running)
                    simpa [empty] using stopped
                  · simpa [empty] using driven_stop driven reader (by simp)

theorem driven_finish (driven : Driven e bytes frames asked a) :
    Driven e bytes frames asked a.finish := by
  rw [finish]
  split
  case isFalse => exact driven
  case isTrue both =>
    obtain ⟨-, stopped, written⟩ := both
    exact { driven with concludes := fun _ => ⟨stopped, written, rfl⟩ }

theorem driven_act (driven : Driven e bytes frames asked a) (activity : Activity) :
    Driven e (bytes ++ activity.piece) (frames ++ (a.hears? activity).toList)
      (asked || activity = .close) (a.act activity) := by
  obtain ⟨sound, closed⟩ := closed_act driven activity
  cases activity with
  | read => simpa [Activity.piece] using driven_read driven
  | finish => simpa [Activity.piece, hears?, act] using driven_finish driven
  | arrive piece =>
      have whole : bytes ++ piece = Frame.row frames ++ (a.sending.stream.inbox ++ piece) := by
        rw [driven.whole, List.append_assoc]
      simpa [Activity.piece, hears?] using
        ({ driven with whole } : Driven e (bytes ++ piece) frames asked (a.act (.arrive piece)))
  | close =>
      simpa [Activity.piece, hears?] using
        ({ driven with shutdown := fun _ => rfl, cause := fun _ => by simp [act, Asking.close] } :
          Driven e bytes frames true (a.act .close))
  | heed =>
      have heeded : Driven e bytes frames asked (a.act .heed) := by
        rw [act]
        split
        case isTrue both => exact driven_stop driven both.1 (by simp)
        case isFalse => exact driven
      simpa [Activity.piece, hears?] using heeded
  | write heeds =>
      have follows := follows_writeStep heeds a
      simpa [Activity.piece, hears?] using
        driven_of_follows driven sound closed follows rfl rfl rfl
  | _ =>
      have goesOn := driven_of_follows driven sound closed
        (Sending.follows_of_eq rfl rfl rfl rfl) rfl rfl rfl
      simpa [Activity.piece, hears?] using goesOn

theorem driven_run (driven : Driven e bytes frames asked a) (activities : List Activity) :
    Driven e (bytes ++ arrived activities) (frames ++ a.heard activities)
      (asked || .close ∈ activities) (a.run activities) := by
  induction activities generalizing a bytes frames asked with
  | nil => simpa [arrived, heard, history, run] using driven
  | cons activity rest ih =>
      have later := ih (driven_act driven activity)
      rw [heard_cons]
      simpa [arrived, run, List.append_assoc, Bool.or_assoc, eq_comm] using later

/-! ## The first end -/

/-- A reader that has ended stays as it is, and hears nothing more. -/
theorem keeps_run_of_ended (ended : a.reader ≠ .running) (activities : List Activity) :
    (a.run activities).reader = a.reader ∧ a.heard activities = [] := by
  induction activities generalizing a with
  | nil => exact ⟨rfl, rfl⟩
  | cons activity rest ih =>
      obtain ⟨reader, deaf⟩ := reader_act_of_ended ended activity
      obtain ⟨later, quiet⟩ := ih (reader ▸ ended)
      exact ⟨later.trans reader, by rw [heard_cons, deaf, quiet]; rfl⟩

theorem reader_run_iff (driven : Driven e bytes frames asked a) (running : a.reader = .running)
    (activities : List Activity) :
    (a.run activities).reader = .running ↔ a.Undisturbed activities := by
  induction activities generalizing a bytes frames asked with
  | nil => exact iff_of_true running trivial
  | cons activity rest ih =>
      show ((a.act activity).run rest).reader = .running ↔ _
      by_cases goesOn : (a.act activity).reader = .running
      · rw [ih (driven_act driven activity) goesOn]
        refine ⟨fun later => ⟨fun outcome ending => ending.ne_running ?_, later⟩, And.right⟩
        rw [← reader_of_ending driven.sound running driven.readable ending, goesOn]
      · have ending := ending_of_reader driven.sound running driven.readable goesOn
        rw [(keeps_run_of_ended goesOn rest).1]
        exact iff_of_false goesOn fun undisturbed => undisturbed.1 _ ending

/-- The first ending is there to stay. -/
theorem run_of_ending (driven : Driven e bytes frames asked a) (running : a.reader = .running)
    (ending : Ending a activity outcome) (after : List Activity) :
    (a.run (activity :: after)).reader = outcome ∧
      a.heard (activity :: after) = a.heard [activity] ∧
      ∀ slot, a.initiator.progress? slot = some .pending →
        (a.run (activity :: after)).initiator.progress? slot = some (.settled (.failed .closed)) := by
  have reader := reader_of_ending driven.sound running driven.readable ending
  have next := driven_act driven activity
  obtain ⟨stays, quiet⟩ := keeps_run_of_ended (reader ▸ ending.ne_running) after
  refine ⟨stays.trans reader, ?_, ?_⟩
  · rw [heard_cons, heard_cons, quiet]
    rfl
  · intro slot pending
    show ((a.act activity).run after).initiator.progress? slot = _
    rw [initiator_run next.sound]
    have failed := progress?_of_ending driven.sound running driven.readable ending pending
    exact Initiator.progress?_moves_of_settled next.sound failed _

/-! ## The end of the work -/

/-- All that can keep the work from its end, once the reader has ended, is a lack of room. -/
def finishing : List Activity := [.allow none, .write true, .write true, .finish]

theorem shutdown_writeStep (asked : a.sending.shutdown = true) (heeds : Bool) :
    (a.writeStep heeds).sending.shutdown = true := by
  have follows := follows_writeStep heeds a
  by_cases running : a.sending.writer.status = .running
  · exact (follows.shutdown running).mpr (.inl asked)
  · exact (follows.stopped running).1.trans asked

/-- Between two frames, a writer that is asked to end does so. -/
theorem ended_writeStep_of_idle (asked : a.sending.shutdown = true)
    (idle : a.sending.writer.unsent = []) :
    (a.writeStep true).sending.writer.status ≠ .running := by
  by_cases running : a.sending.writer.status = .running
  · obtain ⟨queue, same⟩ := sending_passOn a
    show ((a.passOn.sending.stepSeeing? true).getD a.passOn.sending).writer.status ≠ .running
    simp [same, Sending.stepSeeing?, running, idle, Sending.begin?, asked, Sending.close]
  · rw [((follows_writeStep true a).stopped running).2]
    exact running

/-- Where there is room for it, the rest of a frame is written at once. -/
theorem idle_writeStep_of_room (asked : a.sending.shutdown = true)
    (unlimited : a.sending.stream.room = none) :
    (a.writeStep true).sending.writer.status ≠ .running ∨
      (a.writeStep true).sending.writer.unsent = [] := by
  by_cases idle : a.sending.writer.unsent = []
  · exact .inl (ended_writeStep_of_idle asked idle)
  by_cases running : a.sending.writer.status = .running
  · obtain ⟨queue, same⟩ := sending_passOn a
    show ((a.passOn.sending.stepSeeing? true).getD a.passOn.sending).writer.status ≠ .running ∨
      ((a.passOn.sending.stepSeeing? true).getD a.passOn.sending).writer.unsent = []
    rw [same, Sending.stepSeeing?, if_neg (not_not_intro running), if_pos idle, Sending.write?,
      Stream.write, unlimited]
    cases a.sending.stream.writeFailure with
    | some reason => exact .inl (by simp [Sending.breakOff])
    | none =>
        cases a.sending.stream.unwritable with
        | true => exact .inl (by simp [Sending.breakOff])
        | false =>
            right
            simp [Stream.accept_of_room _ unlimited]
  · rw [((follows_writeStep true a).stopped running).2]
    exact .inl running

theorem over_finish (stopped : a.reader ≠ .running)
    (written : a.sending.writer.status ≠ .running) : a.finish.status ≠ .running := by
  rw [finish]
  split
  case isTrue => exact Status.and_ne_running stopped written
  case isFalse unable => exact fun running => unable ⟨running, stopped, written⟩

theorem over_finishing (driven : Driven e bytes frames asked a) (ended : a.reader ≠ .running) :
    (a.run finishing).status ≠ .running := by
  let b := a.act (.allow none)
  have asked : b.sending.shutdown = true := driven.shutdown ended
  have written : ((b.writeStep true).writeStep true).sending.writer.status ≠ .running := by
    rcases idle_writeStep_of_room asked rfl with stopped | idle
    · rw [((follows_writeStep true (b.writeStep true)).stopped stopped).2]
      exact stopped
    · exact ended_writeStep_of_idle (shutdown_writeStep asked true) idle
  exact over_finish ended written

/-! ## Frames that wait -/

theorem next_of_front (driven : Driven e bytes frames asked a) {payload rest : Bytes}
    (front : a.sending.stream.inbox = Frame.ofPayload payload ++ rest)
    (admitted : Frame.Admits e.maxFrameSize payload.length) :
    a.sending.stream.next a.limit = .frame payload rest := by
  have scan := Frame.scan_eq_frame_iff.mpr ⟨front, driven.limit ▸ admitted⟩
  rw [next_eq driven.readable, scan]

/-- A reader that looks at the stream takes the frame that waits there. -/
theorem heard_of_front (driven : Driven e bytes frames asked a) (running : a.reader = .running)
    {payload rest : Bytes} (front : a.sending.stream.inbox = Frame.ofPayload payload ++ rest)
    (admitted : Frame.Admits e.maxFrameSize payload.length) : a.heard [.read] = [payload] := by
  have hears : a.hears? .read = some payload := by
    rw [hears?, running, next_of_front driven front admitted]
  rw [heard_cons, hears]
  rfl

/-- A frame without an id does not end the reader. -/
theorem reader_of_short (driven : Driven e bytes frames asked a) (running : a.reader = .running)
    {payload rest : Bytes} (front : a.sending.stream.inbox = Frame.ofPayload payload ++ rest)
    (admitted : Frame.Admits e.maxFrameSize payload.length)
    (short : payload.length < CorrelationId.width) : (a.act .read).reader = .running := by
  rw [act_read running, next_of_front driven front admitted]
  rcases takeFrame_cases driven.sound payload rest with ⟨id, named, -, -⟩ | ⟨-, same⟩
  · have length := named.length_le
    rw [Word.length_littleEndian] at length
    exact absurd short (Nat.not_lt.mpr length)
  · simp only [same]
    exact running

/-- Whatever arrives, is asked, fires and is written, in whatever order:

The initiator hears the frames at the front of what has arrived, in their order, and the next
one when the reader looks at the stream. Those without an id are counted, and end nothing. The
first ending decides how the reader ends, nothing is heard after it, and what is unsettled then
fails as closed. A reader that goes on sees a shutdown only if a caller asked for it or the
writer has failed. Once the reader has ended, the initiator is closed, nothing is outstanding
and every measurement has its result; and given room, all comes to its end. Then the outcome is
the fault of the reader if it has one, and that of the writer otherwise. To settle is to go on
with such work. -/
theorem work_ends_in_order (e : Exchange) (activities : List Activity) :
    let start := ofExchange e
    let a := start.run activities
    let heard := start.heard activities
    (a.initiator = start.initiator.moves (start.history activities) ∧
      arrived activities = Frame.row heard ++ a.sending.stream.inbox ∧
      ∀ payload ∈ heard, Frame.Admits e.maxFrameSize payload.length) ∧
    (∀ payload rest, a.reader = .running →
      a.sending.stream.inbox = Frame.ofPayload payload ++ rest →
      Frame.Admits e.maxFrameSize payload.length →
      start.heard (activities ++ [.read]) = heard ++ [payload] ∧
      (payload.length < 4 → (a.act .read).reader = .running)) ∧
    a.initiator.tally.framingErrors = .ofNat (heard.filter (·.length < 4)).length ∧
    (a.reader = .running ↔ start.Undisturbed activities) ∧
    (∀ before activity after outcome, activities = before ++ activity :: after →
      start.Undisturbed before → Ending (start.run before) activity outcome →
      a.reader = outcome ∧ heard = start.heard (before ++ [activity]) ∧
      ∀ slot, (start.run before).initiator.progress? slot = some .pending →
        a.initiator.progress? slot = some (.settled (.failed .closed))) ∧
    (a.reader = .running → (a.sending.shutdown = true ↔
      .close ∈ activities ∨ ∃ fault, a.sending.writer.status = .failed fault)) ∧
    (a.reader ≠ .running →
      a.initiator.isClosed = true ∧ a.initiator.pendingCount = 0 ∧
      (∀ slot, a.initiator.progress? slot ≠ some .pending) ∧
      (a.run finishing).status ≠ .running) ∧
    (a.status ≠ .running →
      a.reader ≠ .running ∧ a.sending.writer.status ≠ .running ∧
      a.status = a.reader.and a.sending.writer.status) ∧
    ∃ more, a.settle = start.run (activities ++ more) := by
  intro start a heard
  have begins : Driven e [] [] false start := driven_start e
  have driven : Driven e (arrived activities) heard (decide (.close ∈ activities)) a := by
    simpa using driven_run begins activities
  have moved := initiator_run begins.sound activities
  refine ⟨⟨moved, driven.whole, driven.admitted⟩, ?_, ?_, reader_run_iff begins rfl activities,
    ?_, ?_, ?_, driven.concludes, ?_⟩
  · intro payload rest running front admitted
    refine ⟨?_, reader_of_short driven running front admitted⟩
    rw [heard_append, heard_of_front driven running front admitted]
  · show (start.run activities).initiator.tally.framingErrors = _
    rw [moved, Initiator.framingErrors_moves begins.sound]
    exact UInt64.zero_add _
  · intro before activity after outcome split undisturbed ending
    subst split
    have earlier := driven_run begins before
    have running := (reader_run_iff begins rfl before).mpr undisturbed
    obtain ⟨reader, last, failed⟩ := run_of_ending earlier running ending after
    rw [← run_append] at reader failed
    refine ⟨reader, ?_, failed⟩
    show start.heard (before ++ activity :: after) = _
    rw [heard_append, heard_append, last]
  · intro running
    simpa using driven.cause running
  · intro ended
    have closed := driven.closed.mpr ended
    refine ⟨closed, ?_, Initiator.not_pending_of_closed driven.sound closed,
      over_finishing driven ended⟩
    rw [Initiator.pendingCount, Outstanding.count,
      (Initiator.ended_of_closed driven.sound closed).empty]
    rfl
  · obtain ⟨more, same⟩ := settle_eq_run driven.sound
    exact ⟨more, same.trans (run_append start activities more).symm⟩

/-- A frame without an id is counted; the next one names no request, while the only one that
is outstanding is not even queued. -/
example :
    let frames := Frame.ofPayload [1, 2] ++ Frame.ofPayload [9, 0, 0, 0]
    let activities := [.enter [7], .arrive frames, .read, .read, .queue 7] ++ finishing
    let a := (ofExchange {}).run activities
    a.status = .failed (.violation 9) ∧ a.initiator.tally.framingErrors = 1 ∧
      a.initiator.progress? 0 = some (.settled (.failed .closed)) := by
  decide +kernel

end Asking

end RoundTrip
