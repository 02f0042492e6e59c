import RoundTrip.Proofs.Link.Asking
import RoundTrip.Proofs.Link.Asking.Motions

/-!
# An initiator on a stream at work

Bytes arrive in pieces, callers ask, drop measurements and close, deadlines come, and the
writer and the reader make steps of their own, in any order (`Asking.run`). Where the writer
or the reader could go on with its work and see a shutdown at the same time, either may come
first.

What all of them do with the initiator makes up one history (`Asking.initiator_run`), and the
frames in it are those that the reader has heard. Settling does these things in one of their
orders (`Asking.settle_eq_run`).
-/

namespace RoundTrip

namespace Asking

/-- What happens on a stream with an initiator. -/
inductive Activity
  | arrive (piece : Bytes)
  /-- Nothing more arrives. -/
  | endInput
  /-- Reading fails, after what has arrived. -/
  | failInput (reason : String)
  /-- There is room for so many bytes, or for any number. -/
  | allow (room : Option Nat)
  | failOutput (reason : String)
  | failShutdown (reason : String)
  /-- A caller enters a request, with ids as they are drawn. -/
  | enter (draws : List CorrelationId)
  /-- A caller queues a request that was entered. -/
  | queue (id : CorrelationId)
  | dropMeasurement (slot : Nat)
  /-- A deadline is run, if it is armed. -/
  | fire (number : Nat)
  /-- Time passes for the round trips. -/
  | advance (nanos : Nat)
  /-- Time passes for the deadlines. -/
  | advanceDeadlines (nanos : Nat)
  /-- The delays begin that have not begun. -/
  | beginDelays
  /-- A caller asks for a shutdown. -/
  | close
  /-- The writer makes a step. -/
  | write (heeds : Bool)
  /-- The reader looks at the stream. -/
  | read
  /-- The reader looks for a shutdown. -/
  | heed
  /-- All is over, if both have ended. -/
  | finish
deriving DecidableEq, Repr

/-- The writer takes what is queued and makes a step. -/
def writeStep (heeds : Bool) (a : Asking) : Asking :=
  let passed := a.passOn
  passed.setSending ((passed.sending.stepSeeing? heeds).getD passed.sending)

def act (a : Asking) : Activity → Asking
  | .arrive piece => a.setStream (a.sending.stream.feed piece)
  | .endInput => { a with sending.stream.ended := true }
  | .failInput reason => { a with sending.stream.readFailure := some reason }
  | .allow room => { a with sending.stream.room := room }
  | .failOutput reason => { a with sending.stream.writeFailure := some reason }
  | .failShutdown reason => { a with sending.stream.shutdownFailure := some reason }
  | .enter draws => { a with initiator := (a.initiator.enter? draws).2 }
  | .queue id => { a with initiator := a.initiator.send id }
  | .dropMeasurement slot => { a with initiator := a.initiator.dropMeasurement slot }
  | .fire number => { a with initiator := (a.initiator.fire number).2 }
  | .advance nanos => { a with initiator := a.initiator.advanceClock nanos }
  | .advanceDeadlines nanos => { a with initiator := a.initiator.advanceDeadlines nanos }
  | .beginDelays => { a with initiator := a.initiator.beginDelays }
  | .close => a.close
  | .write heeds => a.writeStep heeds
  | .read => if a.reader = .running then a.readStream?.getD a else a
  | .heed => if a.reader = .running ∧ a.sending.shutdown then a.stop .finished else a
  | .finish => a.finish

def run (a : Asking) (activities : List Activity) : Asking := activities.foldl act a

theorem run_append (a : Asking) (first later : List Activity) :
    a.run (first ++ later) = (a.run first).run later :=
  List.foldl_append

/-- The bytes that arrive. -/
def Activity.piece : Activity → Bytes
  | .arrive piece => piece
  | _ => []

def arrived (activities : List Activity) : Bytes := (activities.map (·.piece)).flatten

/-! ## The initiator -/

/-- The frame that the reader takes. -/
def hears? (a : Asking) : Activity → Option Bytes
  | .read =>
      match a.reader, a.sending.stream.next a.limit with
      | .running, .frame payload _ => some payload
      | _, _ => none
  | _ => none

/-- The initiator is closed when the reader ends. -/
def closing (a next : Asking) : List Initiator.Motion :=
  if a.reader = next.reader then [] else [.event .close]

/-- What an activity does with the initiator. -/
def motions (a : Asking) : Activity → List Initiator.Motion
  | .enter draws => [.enter draws]
  | .queue id => [.queue id]
  | .dropMeasurement slot => [.event (.dropMeasurement slot)]
  | .fire number => [.event (.fire number)]
  | .advance nanos => [.event (.advance nanos)]
  | .advanceDeadlines nanos => [.advanceDeadlines nanos]
  | .beginDelays => [.beginDelays]
  | .write heeds =>
      if (a.writeStep heeds).sending.writer.status = .running then [.event .takeQueued]
      else [.event .takeQueued, .event .dropOutbound]
  | .read => ((a.hears? .read).map fun payload => .event (.frame payload)).toList ++
      a.closing (a.act .read)
  | .heed => a.closing (a.act .heed)
  | .arrive _ | .endInput | .failInput _ | .allow _ | .failOutput _ | .failShutdown _ | .close
  | .finish => []

/-- What has been done with the initiator. -/
def history (a : Asking) : List Activity → List Initiator.Motion
  | [] => []
  | activity :: rest => a.motions activity ++ (a.act activity).history rest

/-- The frames that the reader has given to the initiator. -/
def heard (a : Asking) (activities : List Activity) : List Bytes :=
  (a.history activities).filterMap (·.frame?)

variable {a : Asking}

/-- What the reader does at the stream. -/
theorem act_read (running : a.reader = .running) :
    a.act .read =
      match a.sending.stream.next a.limit with
      | .waiting => a
      | .frame payload rest => a.takeFrame payload rest
      | .finished => a.stop .finished
      | .failed fault => a.stop (.failed fault) := by
  rw [act, if_pos running, readStream?]
  cases a.sending.stream.next a.limit <;> rfl

/-- The initiator has taken the frame at the front of what has arrived. -/
def taken (payload rest : Bytes) (a : Asking) : Asking :=
  { a with initiator := a.initiator.act (.frame payload), sending.stream.inbox := rest }

/-- A frame that names a request which is not outstanding ends the reader, and no other does. -/
theorem takeFrame_cases (sound : a.initiator.Sound) (payload rest : Bytes) :
    (∃ id, Word.littleEndian id <+: payload ∧
      (∀ entry ∈ a.initiator.ledger.table.entries, entry.id ≠ id) ∧
      a.takeFrame payload rest = (a.taken payload rest).stop (.failed (.violation id))) ∨
    ((∀ id, Word.littleEndian id <+: payload →
        ∃ entry ∈ a.initiator.ledger.table.entries, entry.id = id) ∧
      a.takeFrame payload rest = a.taken payload rest) := by
  rcases Initiator.onFrame_cases sound payload with
    ⟨short, same⟩ | ⟨id, named, unknown, same⟩ | ⟨entry, member, named, same⟩
  · refine .inr ⟨fun id named => ?_, ?_⟩
    · have length := named.length_le
      rw [Word.length_littleEndian] at length
      exact absurd short (Nat.not_lt.mpr length)
    · simp only [takeFrame, same, Fault.noPrefixIn, Fault.isFatal]
      rw [taken, Initiator.act, same]
      rfl
  · exact .inl ⟨id, named, unknown, takeFrame_of_violation (congrArg (·.1) same)⟩
  · refine .inr ⟨fun id also => ?_, takeFrame_of_ok (congrArg (·.1) same)⟩
    exact ⟨entry, member, CorrelationId.eq_of_prefix named also⟩

theorem closing_stop (running : a.reader = .running) {status : Status} (ends : status ≠ .running)
    (b : Asking) : a.closing (b.stop status) = [.event .close] :=
  if_neg (running ▸ ends.symm)

theorem closing_of_eq {next : Asking} (same : next.reader = a.reader) : a.closing next = [] :=
  if_pos same.symm

theorem initiator_act (sound : a.initiator.Sound) (activity : Activity) :
    (a.act activity).initiator = a.initiator.moves (a.motions activity) := by
  cases activity with
  | write heeds =>
      rw [motions, act, writeStep, setSending]
      split <;> rfl
  | read =>
      rw [motions, hears?]
      cases reader : a.reader with
      | running =>
          rw [act_read reader]
          cases a.sending.stream.next a.limit with
          | waiting =>
              rw [closing_of_eq rfl]
              rfl
          | frame payload rest =>
              rcases takeFrame_cases sound payload rest with ⟨id, -, -, same⟩ | ⟨-, same⟩ <;>
                simp only [same]
              · rw [closing_stop reader (by simp)]
                rfl
              · have still : (a.taken payload rest).reader = a.reader := rfl
                rw [closing_of_eq still]
                rfl
          | finished | failed =>
              simp only
              rw [closing_stop reader (by simp)]
              rfl
      | finished | failed =>
          rw [act, if_neg (by simp [reader]), closing_of_eq rfl]
          rfl
  | heed =>
      rw [motions, closing, act]
      split
      case isTrue asked =>
        rw [asked.1]
        rfl
      case isFalse =>
        rw [if_pos rfl]
        rfl
  | finish =>
      rw [act, finish]
      split <;> rfl
  | _ => rfl

theorem close_mem_closing (a next : Asking) :
    .event .close ∈ a.closing next ↔ next.reader ≠ a.reader := by
  rw [closing]
  split
  case isTrue same => simp [same]
  case isFalse differ => simpa using Ne.symm differ

/-- The initiator is closed just when the reader ends. -/
theorem close_mem_motions (a : Asking) (activity : Activity) :
    .event .close ∈ a.motions activity ↔ (a.act activity).reader ≠ a.reader := by
  cases activity with
  | read =>
      rw [motions, List.mem_append, ← close_mem_closing]
      cases a.hears? .read <;> simp
  | heed => exact close_mem_closing a _
  | write heeds =>
      have same : (a.act (.write heeds)).reader = a.reader := rfl
      rw [motions]
      split <;> simp [same]
  | finish =>
      have same : (a.act .finish).reader = a.reader := by
        rw [act, finish]
        split <;> rfl
      simp [motions, same]
  | _ => simp [motions, act, setStream, close]

theorem initiator_run (sound : a.initiator.Sound) (activities : List Activity) :
    (a.run activities).initiator = a.initiator.moves (a.history activities) := by
  induction activities generalizing a with
  | nil => rfl
  | cons activity rest ih =>
      have moved := initiator_act sound activity
      have next : (a.act activity).initiator.Sound := by
        rw [moved]
        exact Initiator.sound_moves sound _
      show ((a.act activity).run rest).initiator = _
      rw [ih next, moved, ← Initiator.moves_append]
      rfl

/-! ## What the reader hears -/

theorem frames_closing (a next : Asking) : (a.closing next).filterMap (·.frame?) = [] := by
  rw [closing]
  split <;> rfl

theorem frames_motions (a : Asking) (activity : Activity) :
    (a.motions activity).filterMap (·.frame?) = (a.hears? activity).toList := by
  cases activity with
  | write heeds =>
      rw [motions]
      split <;> rfl
  | read =>
      rw [motions, List.filterMap_append, frames_closing, List.append_nil]
      cases a.hears? .read <;> rfl
  | heed => exact frames_closing a _
  | _ => rfl

theorem heard_cons (a : Asking) (activity : Activity) (rest : List Activity) :
    a.heard (activity :: rest) = (a.hears? activity).toList ++ (a.act activity).heard rest := by
  rw [heard, history, List.filterMap_append, frames_motions]
  rfl

theorem heard_append (a : Asking) (first later : List Activity) :
    a.heard (first ++ later) = a.heard first ++ (a.run first).heard later := by
  induction first generalizing a with
  | nil => rfl
  | cons activity first ih =>
      rw [List.cons_append, heard_cons, heard_cons, ih, List.append_assoc]
      rfl

/-! ## What an activity leaves alone -/

theorem follows_writeStep (heeds : Bool) (a : Asking) :
    a.sending.Follows (a.writeStep heeds).sending := by
  obtain ⟨queue, same⟩ := sending_passOn a
  have follows : a.passOn.sending.Follows (a.writeStep heeds).sending := by
    show Sending.Follows _ ((a.passOn.sending.stepSeeing? heeds).getD a.passOn.sending)
    cases step : a.passOn.sending.stepSeeing? heeds with
    | some next => exact Sending.follows_stepSeeing? step
    | none => exact Sending.follows_of_eq rfl rfl rfl rfl
  rw [same] at follows
  exact ⟨follows.inbox, follows.unreadable, follows.shutdown, follows.stopped⟩

theorem reader_act_of_ended (ended : a.reader ≠ .running) (activity : Activity) :
    (a.act activity).reader = a.reader ∧ a.hears? activity = none := by
  cases activity with
  | read =>
      refine ⟨by rw [act, if_neg ended], ?_⟩
      rw [hears?]
      split
      · rename_i running _
        exact absurd running ended
      · rfl
  | heed => exact ⟨by rw [act, if_neg fun both => ended both.1], rfl⟩
  | finish =>
      refine ⟨?_, rfl⟩
      rw [act, finish]
      split <;> rfl
  | _ => exact ⟨rfl, rfl⟩

/-! ## Settling is such work -/

theorem passOn_of_empty (empty : a.initiator.outbound.queued = []) : a.passOn = a := by
  rcases a with ⟨_, ⟨_, _, _, _, _, ⟨_, queued⟩, _⟩, _, _, _, _⟩
  cases empty
  rfl

theorem queued_setSending (sending : Sending) (empty : a.initiator.outbound.queued = []) :
    (a.setSending sending).initiator.outbound.queued = [] := by
  rw [setSending]
  split
  · exact empty
  · rfl

/-- A step of the writer on the way makes no difference to what it comes to. -/
theorem setSending_settle (fuel : Nat) (next : Sending) (a : Asking) :
    (a.setSending next).setSending (RoundTrip.settle Sending.step? fuel next) =
      a.setSending (RoundTrip.settle Sending.step? fuel next) := by
  by_cases running : next.writer.status = .running
  · rw [setSending_of_running running]
    rfl
  · have rests : next.step? = none := if_pos running
    rw [settle_of_none rests, setSending, setSending, if_neg running, if_neg running]
    rfl

theorem writeStep_true (a : Asking) :
    a.writeStep true = a.passOn.setSending (a.passOn.sending.step?.getD a.passOn.sending) := by
  rw [writeStep, Sending.step?_eq_stepSeeing?]

theorem settle_writes (fuel : Nat) (a : Asking) :
    ∃ count, a.passOn.setSending (RoundTrip.settle Sending.step? (fuel + 1) a.passOn.sending) =
      a.run (.replicate (count + 1) (.write true)) := by
  induction fuel generalizing a with
  | zero =>
      refine ⟨0, ?_⟩
      show _ = a.writeStep true
      rw [writeStep_true, RoundTrip.settle]
      cases a.passOn.sending.step? <;> rfl
  | succ fuel ih =>
      cases step : a.passOn.sending.step? with
      | none =>
          refine ⟨0, ?_⟩
          show _ = a.writeStep true
          rw [writeStep_true, settle_of_none step, step]
          rfl
      | some next =>
          have stepped : a.writeStep true = a.passOn.setSending next := by
            rw [writeStep_true, step]
            rfl
          obtain ⟨count, same⟩ := ih (a.writeStep true)
          refine ⟨count + 1, ?_⟩
          show _ = (a.writeStep true).run (.replicate (count + 1) (.write true))
          rw [← same, stepped, passOn_of_empty (queued_setSending next rfl), RoundTrip.settle, step]
          exact (setSending_settle (fuel + 1) next a.passOn).symm

theorem readStep?_eq_act {next : Asking} (step : a.readStep? = some next) :
    ∃ activity, next = a.act activity := by
  rw [readStep?] at step
  split at step
  case isTrue => cases step
  case isFalse running =>
    have running := Decidable.not_not.mp running
    split at step
    case isTrue asked =>
      cases step
      exact ⟨.heed, (if_pos ⟨running, asked⟩).symm⟩
    case isFalse => exact ⟨.read, by rw [act, if_pos running, step]; rfl⟩

theorem settle_reads (fuel : Nat) (a : Asking) :
    ∃ activities, RoundTrip.settle readStep? fuel a = a.run activities := by
  induction fuel generalizing a with
  | zero => exact ⟨[], rfl⟩
  | succ fuel ih =>
      rw [RoundTrip.settle]
      cases step : a.readStep? with
      | none => exact ⟨[], rfl⟩
      | some next =>
          obtain ⟨activity, rfl⟩ := readStep?_eq_act step
          obtain ⟨rest, same⟩ := ih (a.act activity)
          exact ⟨activity :: rest, same⟩

theorem run_fire (numbers : List Nat) (a : Asking) :
    a.run (numbers.map .fire) =
      { a with initiator := a.initiator.run (numbers.map .fire) } := by
  induction numbers generalizing a with
  | nil => rfl
  | cons number numbers ih => exact ih (a.act (.fire number))

theorem poll_eq_run (sound : a.initiator.Sound) : ∃ activities, a.poll = a.run activities := by
  let started := a.act .beginDelays
  let numbers := started.initiator.deadlines.due.map (·.number)
  refine ⟨.beginDelays :: numbers.map .fire, ?_⟩
  show { a with initiator := a.initiator.poll } = started.run (numbers.map .fire)
  rw [run_fire, Initiator.poll_eq_run sound, List.map_map]
  rfl

/-- Settling is work in one of its orders. -/
theorem settle_eq_run (sound : a.initiator.Sound) : ∃ activities, a.settle = a.run activities := by
  obtain ⟨due, polled⟩ := poll_eq_run sound
  let written := a.poll.write
  let read := written.read
  obtain ⟨first, wrote⟩ := settle_writes (2 * a.poll.passOn.sending.writer.queue.length + 2) a.poll
  obtain ⟨reads, heard⟩ := settle_reads (written.sending.stream.inbox.length + 2) written
  obtain ⟨last, finished⟩ := settle_writes (2 * read.passOn.sending.writer.queue.length + 2) read
  refine ⟨due ++ .replicate (first + 1) (.write true) ++ reads ++
    .replicate (last + 1) (.write true) ++ [.finish], ?_⟩
  rw [run_append, run_append, run_append, run_append, ← polled, ← wrote]
  show _ = ((written.run reads).run _).finish
  rw [← heard]
  show _ = (read.run _).finish
  rw [← finished]
  rfl

end Asking

end RoundTrip
