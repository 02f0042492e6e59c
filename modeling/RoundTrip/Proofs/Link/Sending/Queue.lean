import RoundTrip.Proofs.Frame.Writing
import RoundTrip.Proofs.Link.Sending

/-!
# What the writer makes of its queue

Payloads are queued, somebody may ask for a shutdown, the stream has room for some bytes or for
any number, and the writer takes its turns (`Activity`). At every moment what is written together
with what is being written are the frames of a front of the queue (`Emits`). Where the writer could
go on and could see a shutdown, either may come first.

Main result: when the writer has ended, whole frames of a front of the queue are written, and its
status tells what cut the queue off (`front_of_queue_is_written`).
-/

namespace RoundTrip

namespace Sending

/-! ## Runs -/

/-- A writer at the start of its stream, of which the write side may refuse to be shut. -/
def start (limit : Limit) (refusal : Option String) : Sending where
  writer := { limit }
  stream := { shutdownFailure := refusal }

/-- Take a step. Between two frames the writer sees a shutdown or goes on with its queue, and
where it could do both either may come first. -/
def turn? (heeds : Bool) (s : Sending) : Option Sending := (s.stepSeeing? heeds).or s.step?

/-- What can happen to a writer on a stream that does not fail. -/
inductive Activity
  | queue (payload : Bytes)
  /-- Nobody is left to queue payloads. -/
  | release
  /-- Somebody asks for a shutdown. -/
  | close
  /-- There is room for so many bytes, or for any number. -/
  | allow (room : Option Nat)
  /-- The writer takes a turn, if one is possible. -/
  | work (heeds : Bool)
deriving DecidableEq, Repr

/-- Whether somebody asks for a shutdown. -/
def Activity.asks : Activity → Bool
  | close => true
  | queue _ | release | allow _ | work _ => false

theorem any_asks_iff (activities : List Activity) :
    activities.any (·.asks) = true ↔ .close ∈ activities := by
  rw [List.any_eq_true]
  constructor
  · rintro ⟨activity, member, asks⟩
    cases activity with
    | close => exact member
    | queue | release | allow | work => cases asks
  · exact fun member => ⟨.close, member, rfl⟩

def act (s : Sending) : Activity → Sending
  | .queue payload => { s with writer := (s.writer.enqueue payload).2 }
  | .release => { s with writer.senders := false }
  | .close => { s with shutdown := true }
  | .allow room => { s with stream.room := room }
  | .work heeds => (s.turn? heeds).getD s

def run (s : Sending) (activities : List Activity) : Sending := activities.foldl act s

theorem run_append (s : Sending) (activities later : List Activity) :
    s.run (activities ++ later) = (s.run activities).run later :=
  List.foldl_append

/-- The payload that is queued, if the writer is there to take it. -/
def takes? (s : Sending) : Activity → Option Bytes
  | .queue payload => if (s.writer.enqueue payload).1 then some payload else none
  | .release | .close | .allow _ | .work _ => none

/-- All that is queued. -/
def queued (s : Sending) : List Activity → List Bytes
  | [] => []
  | activity :: later => (s.takes? activity).toList ++ (s.act activity).queued later

/-! ## What the writer keeps to -/

variable {limit : Limit} {asked : Bool} {sent left : List Bytes} {s next : Sending}

/-- How a writer has ended that has left these payloads: with the first of them, which has no
frame, or in order. Unless somebody asked for a shutdown nothing is left then. -/
inductive Ends (limit : Limit) (asked : Bool) : (left : List Bytes) → (shutdown : Bool) →
    Status → Prop
  | finished {left : List Bytes} : (asked = false → left = []) →
      Ends limit asked left asked .finished
  | refused {payload : Bytes} {later : List Bytes} : ¬ Frame.Admits limit payload.length →
      Ends limit asked (payload :: later) true (.failed (.oversized payload.length))

/-- A shutdown that is asked for now does not change how the writer has ended. -/
theorem Ends.ask {shutdown : Bool} {status : Status}
    (ends : Ends limit asked left shutdown status) : Ends limit true left true status := by
  cases ends with
  | finished => exact .finished nofun
  | refused refused => exact .refused refused

/-- Of the payloads that were queued these were sent, or are being sent, and those are left. -/
structure Emits (limit : Limit) (asked : Bool) (sent left : List Bytes) (s : Sending) : Prop where
  under : s.writer.limit = limit
  intact : s.stream.Intact
  admitted : ∀ payload ∈ sent, Frame.Admits limit payload.length
  written : s.stream.written ++ s.writer.unsent = Frame.row sent
  works : s.writer.status = .running → s.writer.queue = left ∧ s.shutdown = asked
  ends : s.writer.status ≠ .running →
    s.writer.unsent = [] ∧ Ends limit asked left s.shutdown s.writer.status

theorem emits_start (limit : Limit) (refusal : Option String) :
    Emits limit false [] [] (start limit refusal) where
  under := rfl
  intact := ⟨rfl, rfl, rfl, rfl⟩
  admitted := by simp
  written := rfl
  works := fun _ => ⟨rfl, rfl⟩
  ends := fun ended => absurd rfl ended

/-- Ending writes nothing. -/
theorem emits_close (emits : Emits limit asked sent left s) (idle : s.writer.unsent = [])
    {status : Status} (ended : status ≠ .running) {shutdown : Bool}
    (ends : Ends limit asked left shutdown status) :
    Emits limit asked sent left { s.close status with shutdown := shutdown } := by
  rw [close_eq]
  exact
    { emits with
      intact := emits.intact.update
      works := fun running => absurd running ended
      ends := fun _ => ⟨idle, ends⟩ }

/-- A step puts a payload from those that are left to those that are sent, or none. -/
theorem emits_step (emits : Emits limit asked sent left s) (running : s.writer.status = .running)
    (step : s.Step next) :
    ∃ nowSent nowLeft, nowSent ++ nowLeft = sent ++ left ∧
      Emits limit asked nowSent nowLeft next := by
  obtain ⟨rfl, sameShutdown⟩ := emits.works running
  cases step with
  | write writing =>
      refine ⟨sent, s.writer.queue, rfl, ?_⟩
      exact
        { emits with
          intact := Stream.intact_accept emits.intact s.writer.unsent
          written := (Stream.written_accept s.writer.unsent s.stream).trans emits.written
          works := fun _ => ⟨rfl, sameShutdown⟩
          ends := fun ended => absurd running ended }
  | @begin payload queue idle first admits =>
      have written := emits.written
      rw [idle, List.append_nil] at written
      refine ⟨sent ++ [payload], queue, by rw [first, List.append_assoc]; rfl, ?_⟩
      refine
        { emits with
          admitted := ?_
          written := ?_
          works := fun _ => ⟨rfl, sameShutdown⟩
          ends := fun ended => absurd running ended }
      · intro other member
        rcases List.mem_append.mp member with earlier | new
        · exact emits.admitted other earlier
        · rw [List.mem_singleton.mp new, ← emits.under]
          exact admits
      · show s.stream.written ++ Frame.ofPayload payload = _
        rw [written, Frame.row_append, Frame.row_cons, Frame.row_nil, List.append_nil]
  | refuse idle first refused =>
      rw [emits.under] at refused
      refine ⟨sent, s.writer.queue, rfl, ?_⟩
      exact emits_close emits idle (by simp) (first ▸ .refused refused)
  | stop idle ends =>
      refine ⟨sent, s.writer.queue, rfl, ?_⟩
      have finished : Ends limit asked s.writer.queue s.shutdown .finished := by
        rw [sameShutdown] at ends ⊢
        refine .finished fun notAsked => ?_
        rcases ends with isAsked | ⟨empty, -⟩
        · rw [notAsked] at isAsked
          cases isAsked
        · exact empty
      exact emits_close emits idle (by simp) finished

theorem step_of_turn? {heeds : Bool} (intact : s.stream.Intact) (turn : s.turn? heeds = some next) :
    s.writer.status = .running ∧ s.Step next := by
  have seen : ∃ sees, s.stepSeeing? sees = some next := by
    rcases Option.or_eq_some_iff.mp turn with step | ⟨-, step⟩
    · exact ⟨heeds, step⟩
    · exact ⟨true, step⟩
  obtain ⟨sees, step⟩ := seen
  exact ⟨running_of_stepSeeing? step, step_of_stepSeeing? intact step⟩

/-- Whatever happens, what is queued goes behind what is left. -/
theorem emits_act (emits : Emits limit asked sent left s) (activity : Activity) :
    ∃ nowSent nowLeft, nowSent ++ nowLeft = sent ++ left ++ (s.takes? activity).toList ∧
      Emits limit (asked || activity.asks) nowSent nowLeft (s.act activity) := by
  cases activity with
  | queue payload =>
      simp only [Activity.asks, Bool.or_false, takes?, act, Writer.enqueue]
      split
      case isTrue takes =>
        obtain ⟨waiting, working⟩ := emits.works takes.2
        refine ⟨sent, left ++ [payload], by simp, ?_⟩
        exact
          { emits with
            works := fun _ => ⟨congrArg (· ++ [payload]) waiting, working⟩
            ends := fun ended => absurd takes.2 ended }
      case isFalse => exact ⟨sent, left, by simp, emits⟩
  | release =>
      rw [Activity.asks, Bool.or_false]
      exact ⟨sent, left, by simp [takes?], { emits with }⟩
  | close =>
      rw [Activity.asks, Bool.or_true]
      refine ⟨sent, left, by simp [takes?], ?_⟩
      exact
        { emits with
          works := fun running => ⟨(emits.works running).1, rfl⟩
          ends := fun ended => (emits.ends ended).imp_right Ends.ask }
  | allow room =>
      rw [Activity.asks, Bool.or_false]
      exact ⟨sent, left, by simp [takes?], { emits with intact := emits.intact.update }⟩
  | work heeds =>
      rw [Activity.asks, Bool.or_false, takes?, Option.toList_none, List.append_nil, act]
      cases turn : s.turn? heeds with
      | none => exact ⟨sent, left, rfl, emits⟩
      | some next =>
          obtain ⟨running, step⟩ := step_of_turn? emits.intact turn
          exact emits_step emits running step

theorem emits_run (emits : Emits limit asked sent left s) (activities : List Activity) :
    ∃ nowSent nowLeft, nowSent ++ nowLeft = sent ++ left ++ s.queued activities ∧
      Emits limit (asked || activities.any (·.asks)) nowSent nowLeft (s.run activities) := by
  induction activities generalizing s sent left asked with
  | nil =>
      rw [queued, List.append_nil, List.any_nil, Bool.or_false]
      exact ⟨sent, left, rfl, emits⟩
  | cons activity later ih =>
      obtain ⟨midSent, midLeft, mid, next⟩ := emits_act emits activity
      obtain ⟨nowSent, nowLeft, now, last⟩ := ih next
      rw [mid, List.append_assoc] at now
      rw [Bool.or_assoc] at last
      exact ⟨nowSent, nowLeft, now, last⟩

/-! ## The end -/

/-- How many turns a writer may need that has room for any number of bytes. -/
def weight (s : Sending) : Nat :=
  if s.writer.status = .running then
    2 * s.writer.queue.length + (if s.writer.unsent = [] then 0 else 1) + 1
  else 0

theorem weight_le (s : Sending) : weight s ≤ 2 * s.writer.queue.length + 2 := by
  unfold weight
  split
  · split <;> omega
  · omega

/-- The writer need not wait: it has room, and nobody is left to queue payloads or somebody asked
for a shutdown. -/
structure Dismissed (s : Sending) : Prop where
  intact : s.stream.Intact
  unlimited : s.stream.room = none
  leaves : s.shutdown = true ∨ s.writer.senders = false

theorem step?_isSome (dismissed : s.Dismissed) (running : s.writer.status = .running) :
    s.step?.isSome := by
  rw [step?, if_neg (not_not_intro running), write?_of_intact dismissed.intact,
    dismissed.unlimited]
  split
  case isTrue => rfl
  case isFalse =>
    rw [begin?]
    split
    case isTrue => rfl
    case isFalse working =>
      have gone := dismissed.leaves.resolve_left working
      rw [takeNext?]
      split
      · split <;> rfl
      · rw [gone]
        rfl

theorem dismissed_close (dismissed : s.Dismissed) (status : Status) :
    (s.close status).Dismissed := by
  rw [close_eq]
  exact { dismissed with intact := dismissed.intact.update }

theorem dismissed_step (dismissed : s.Dismissed) (step : s.Step next) : next.Dismissed := by
  cases step with
  | write =>
      refine ⟨Stream.intact_accept dismissed.intact s.writer.unsent, ?_, dismissed.leaves⟩
      rw [afterWrite, Stream.accept_of_room _ dismissed.unlimited]
      exact dismissed.unlimited
  | begin => exact { dismissed with }
  | @refuse payload =>
      have closed := dismissed_close dismissed (.failed (.oversized payload.length))
      exact { closed with leaves := .inl rfl }
  | stop => exact dismissed_close dismissed .finished

theorem step_lowers (dismissed : s.Dismissed) (running : s.writer.status = .running)
    (step : s.Step next) : weight next < weight s := by
  cases step with
  | write writing =>
      rw [afterWrite, Stream.accept_of_room _ dismissed.unlimited]
      simp [weight, running, writing]
  | begin idle first =>
      simp only [weight, begun, running, idle, first, ↓reduceIte, List.length_cons]
      split <;> omega
  | refuse | stop => simp [weight, refuse, close, running]

theorem dismissed_turn (dismissed : s.Dismissed) (heeds : Bool) :
    (s.act (.work heeds)).Dismissed ∧ weight (s.act (.work heeds)) ≤ weight s - 1 := by
  rw [act]
  cases turn : s.turn? heeds with
  | some next =>
      obtain ⟨running, step⟩ := step_of_turn? dismissed.intact turn
      exact ⟨dismissed_step dismissed step,
        Nat.le_sub_one_of_lt (step_lowers dismissed running step)⟩
  | none =>
      have ended : s.writer.status ≠ .running := by
        intro running
        have able := step?_isSome dismissed running
        rw [(Option.or_eq_none_iff.mp turn).2] at able
        cases able
      have atRest : weight s = 0 := if_neg ended
      exact ⟨dismissed, Nat.le_trans (Nat.le_of_eq atRest) (Nat.zero_le _)⟩

/-- Whatever it does first, a writer that is dismissed comes to its end. -/
theorem ended_of_turns (dismissed : s.Dismissed) {choices : List Bool}
    (enough : weight s ≤ choices.length) :
    (s.run (choices.map .work)).writer.status ≠ .running := by
  induction choices generalizing s with
  | nil =>
      intro running
      rw [show (s.run ([].map .work)) = s from rfl] at running
      simp only [weight, running, ↓reduceIte, List.length_nil] at enough
      omega
  | cons heeds choices ih =>
      obtain ⟨still, lower⟩ := dismissed_turn dismissed heeds
      rw [List.length_cons] at enough
      exact ih still (by omega)

/-- These payloads of the queue were sent and those were not, and the writer has ended. -/
structure Concludes (limit : Limit) (asked : Prop) (sent left : List Bytes) (s : Sending) :
    Prop where
  written : s.stream.written = Frame.row sent
  arrives : Frame.calls limit (sent.length + 1) s.stream.written =
    (sent.map (fun payload => .ok (some payload)) ++ [.ok none], [])
  ends : s.writer.status = .finished ∧ (s.shutdown = true ↔ asked) ∨
    ∃ payload later, left = payload :: later ∧ ¬ Frame.Admits limit payload.length ∧
      s.writer.status = .failed (.oversized payload.length) ∧ s.shutdown = true
  longest : ¬ asked → sent = (sent ++ left).takeWhile (Frame.Admits limit ·.length)
  all : ¬ asked → s.writer.status = .finished → left = []

theorem concludes_of_emits (emits : Emits limit asked sent left s)
    (ended : s.writer.status ≠ .running) : Concludes limit (asked = true) sent left s := by
  obtain ⟨idle, ends⟩ := emits.ends ended
  have written := emits.written
  rw [idle, List.append_nil] at written
  have arrives := Frame.calls_row emits.admitted (Frame.unfinished_nil limit)
  rw [List.append_nil, ← written] at arrives
  have early : (sent ++ left).takeWhile (Frame.Admits limit ·.length) =
      sent ++ left.takeWhile (Frame.Admits limit ·.length) :=
    List.takeWhile_append_of_pos fun payload member =>
      decide_eq_true (emits.admitted payload member)
  generalize final : s.writer.status = status at ends
  generalize token : s.shutdown = shutdown at ends
  cases ends with
  | finished all =>
      refine ⟨written, arrives, .inl ⟨final, token ▸ Iff.rfl⟩, fun notAsked => ?_,
        fun notAsked _ => ?_⟩
      · rw [early, all (Bool.eq_false_iff.mpr notAsked)]
        exact (List.append_nil sent).symm
      · exact all (Bool.eq_false_iff.mpr notAsked)
  | refused refused =>
      refine ⟨written, arrives, .inr ⟨_, _, rfl, refused, final, token⟩, fun _ => ?_,
        fun _ finished => ?_⟩
      · rw [early, List.takeWhile_cons_of_neg (by simpa using refused), List.append_nil]
      · rw [final] at finished
        cases finished

/-- When a writer has ended, the stream holds the frames of a front of its queue and nothing more,
and a reader gets these payloads back. Either the payload behind them is one that the limit does
not admit: then the writer fails with its size and asks for a shutdown. Or the writer finishes
and asks for nothing; and unless somebody else asked for a shutdown, all of the queue is written.
So without a shutdown what is written is all before the first payload that is not admitted. Once it
has room, a writer ends that is asked to, or that nobody can queue payloads for, whatever it does
first. -/
theorem front_of_queue_is_written (limit : Limit) (refusal : Option String)
    (activities : List Activity) :
    let queue := (start limit refusal).queued activities
    let s := (start limit refusal).run activities
    (s.writer.status ≠ .running →
      ∃ sent left, sent ++ left = queue ∧ Concludes limit (.close ∈ activities) sent left s) ∧
    (s.shutdown = true ∨ s.writer.senders = false →
      ∀ choices : List Bool, 2 * s.writer.queue.length + 2 ≤ choices.length →
        (s.run (.allow none :: choices.map .work)).writer.status ≠ .running) := by
  intro queue s
  obtain ⟨sent, left, whole, emits⟩ := emits_run (emits_start limit refusal) activities
  rw [List.append_nil, List.nil_append] at whole
  rw [Bool.false_or] at emits
  constructor
  · intro ended
    have concludes := concludes_of_emits emits ended
    rw [any_asks_iff] at concludes
    exact ⟨sent, left, whole, concludes⟩
  · intro leaves choices enough
    have dismissed : (s.act (.allow none)).Dismissed := ⟨emits.intact.update, rfl, leaves⟩
    exact ended_of_turns dismissed (Nat.le_trans (weight_le _) enough)

/-- The third of four payloads is too long. There is little room at first, and a shutdown is asked
for inside the first frame, but the writer does not look for it before it comes to that payload. -/
theorem front_of_queue_is_written_refused :
    let activities : List Activity :=
      [.queue [7], .queue [1, 2], .allow (some 3), .work true, .work true, .queue [1, 2, 3],
        .close, .queue [9]]
    let choices := [true, false, false, false, false, false, false, false]
    let turns : List Activity := .allow none :: choices.map .work
    let s := (start (some 2) none).run activities
    let e := (start (some 2) none).run (activities ++ turns)
    s.shutdown = true ∧ 2 * s.writer.queue.length + 2 ≤ choices.length ∧
      e.writer.status ≠ .running ∧
      (∃ sent left, sent ++ left = [[7], [1, 2], [1, 2, 3], [9]] ∧
        Concludes (some 2) (.close ∈ activities ++ turns) sent left e) ∧
      e.stream.written = [0, 0, 0, 1, 7, 0, 0, 0, 2, 1, 2] ∧
      e.writer.status = .failed (.oversized 3) := by
  intro activities choices turns s e
  have asked : s.shutdown = true := by decide +kernel
  have enough : 2 * s.writer.queue.length + 2 ≤ choices.length := by decide +kernel
  have ended :=
    (front_of_queue_is_written (some 2) none activities).2 (.inl asked) choices enough
  rw [← run_append] at ended
  have concludes := (front_of_queue_is_written (some 2) none (activities ++ turns)).1 ended
  exact ⟨asked, enough, ended, concludes, by decide +kernel⟩

end Sending

end RoundTrip
