import RoundTrip.Proofs.Link.Load
import RoundTrip.Proofs.Link.Loopback.Waking

/-!
# The bound of the steps

What the places of the parts count for (`Turns.cost`), and with it the bound of all steps
(`Loopback.bound`): who rests or steps back lowers it, and who wakes others raises it by little.

No part is woken in vain or gets a turn again and again with nothing to do, for nobody waits for
what is there (`Pipe.Quiet`) and who looks for a frame finds one (`Intake.Keeps`). All turns keep to
this (`Loopback.Booked`).
-/

namespace RoundTrip

/-! ## Places -/

theorem Part.cost_pos (writes : Bool) (part : Part) : 1 ≤ part.cost writes := by
  cases part <;> cases writes <;> decide

theorem Part.cost_le (writes : Bool) (part : Part) : part.cost writes ≤ 3 := by
  cases part <;> cases writes <;> decide

theorem Part.cost_mono {before after : Bool} (stays : after = true → before = true) (part : Part) :
    part.cost after ≤ part.cost before := by
  cases after with
  | true => exact Nat.le_of_eq (by rw [stays rfl])
  | false => cases part <;> cases before <;> decide

theorem Part.costs_append (writes : Bool) (first later : List Part) :
    costs writes (first ++ later) = costs writes first + costs writes later := by
  induction first with
  | nil => exact (Nat.zero_add _).symm
  | cons part parts ih => simp only [List.cons_append, costs, ih, Nat.add_assoc]

theorem Part.costs_replicate_deadline (writes : Bool) (count : Nat) :
    costs writes (List.replicate count .deadline) = count := by
  induction count with
  | zero => rfl
  | succ count ih => simp only [List.replicate_succ, costs, cost, ih, Nat.add_comm]

namespace Turns

variable {t : Turns} {part : Part} (writes : Bool)

theorem cost_wake_le (part : Part) (t : Turns) :
    (t.wake part).cost writes ≤ t.cost writes + part.cost writes := by
  rw [wake]
  split
  · exact Nat.le_add_right _ _
  · simp only [cost, Part.costs_append, Part.costs]
    omega

theorem cost_wakeDeadlines (count : Nat) (t : Turns) :
    (t.wakeDeadlines count).cost writes = t.cost writes + count := by
  simp only [wakeDeadlines, cost, Part.costs_append, Part.costs_replicate_deadline]
  omega

theorem cost_callBack (t : Turns) : t.callBack.cost writes = t.cost writes := by
  rw [callBack]
  split
  · simp [cost]
  · rfl

theorem cost_operate_le (t : Turns) : t.operate.cost writes ≤ t.cost writes + 1 := by
  simp only [operate, cost]
  omega

theorem cost_left (left : Nat) (t : Turns) :
    Turns.cost writes { t with left } + (operations - t.left) =
      t.cost writes + (operations - left) := by
  simp only [cost]
  omega

/-- Who rests gives up a place. -/
theorem cost_rest (head : t.awake.head? = some part) :
    t.rest.cost writes + part.cost writes ≤ t.cost writes := by
  obtain ⟨later, awake⟩ := List.head?_eq_some_iff.mp head
  rw [rest, cost_callBack]
  simp only [cost, awake, List.tail_cons, List.cons_append, Part.costs]
  omega

/-- Who steps back keeps the place, and all operations are there again. -/
theorem cost_defer (head : t.awake.head? = some part) :
    t.defer.cost writes + (operations - t.left) ≤ t.cost writes := by
  obtain ⟨later, awake⟩ := List.head?_eq_some_iff.mp head
  rw [defer, rest, cost_callBack]
  simp only [cost, awake, List.tail_cons, List.take_succ_cons, List.take_zero, List.cons_append,
    List.nil_append, Part.costs_append, Part.costs]
  omega

theorem cost_mono {before after : Bool} (stays : after = true → before = true) (t : Turns) :
    t.cost after ≤ t.cost before := by
  have places (parts : List Part) : Part.costs after parts ≤ Part.costs before parts := by
    induction parts with
    | nil => exact Nat.le_refl _
    | cons part parts ih => exact Nat.add_le_add (Part.cost_mono stays part) ih
  exact Nat.add_le_add_right (places _) _

end Turns

/-! ## What is kept -/

namespace Intake

variable {p q : Pipe} {i j : Intake} {inbox : Bytes}

/-- Who looks for a frame has read something since, or finds one. -/
def Keeps (inbox : Bytes) (i : Intake) : Prop :=
  i.isReady = true → i.pieces.flatten ≠ [] ∨ ∀ limit, Frame.scan limit inbox ≠ .incomplete

theorem used_reserve (more : Nat) (i : Intake) :
    (i.reserve more).used + more ≤ (i.reserve more).size := by
  unfold reserve
  split
  case isTrue fits => exact fits
  case isFalse =>
    split
    case isTrue moves => exact moves.1
    case isFalse => exact Nat.le_max_right _ _

theorem pieces_reserve (more : Nat) (i : Intake) : (i.reserve more).pieces = i.pieces := by
  unfold reserve
  split
  · rfl
  · split <;> rfl

theorem pieces_prepare (i : Intake) : i.prepare.pieces = i.pieces := by
  rw [prepare, pieces_reserve]
  split
  · exact pieces_reserve _ i
  · rfl

theorem room_prepare (i : Intake) : 0 < i.prepare.room := by
  have := used_reserve 1
    (if Frame.overhead < i.wanted then i.reserve (min (i.wanted - i.kept) ahead) else i)
  rw [room, prepare]
  omega

/-- What is read is taken out of the pipe and kept, and it is not nothing. -/
theorem length_read? (read : i.read? p = some (q, j)) :
    ∃ count, 0 < count ∧ q.content.length + count = p.content.length ∧
      j.pieces.flatten.length = i.pieces.flatten.length + count := by
  rw [read?] at read
  split at read
  case isTrue => cases read
  case isFalse there =>
    cases read
    have some := List.length_pos_iff.mpr there
    have place := i.room_prepare
    refine ⟨min i.prepare.room p.content.length, by omega, ?_, ?_⟩
    · simp only [List.length_drop]
      omega
    · simp only [take, List.flatten_cons, List.length_append, List.length_take, pieces_prepare]
      omega

theorem keeps_read? (inbox : Bytes) (read : i.read? p = some (q, j)) : j.Keeps inbox := by
  intro _
  obtain ⟨count, some, -, pieces⟩ := length_read? read
  exact .inl (List.ne_nil_of_length_pos (by omega))

/-- Bytes that make a frame of any size are not the beginning of one. -/
theorem scan_of_wanted (enough : Frame.wanted inbox ≤ inbox.length) (limit : Limit) :
    Frame.scan limit inbox ≠ .incomplete := by
  match inbox with
  | [] | [_] | [_, _] | [_, _, _] => simp [Frame.wanted, Frame.overhead, Word.width] at enough
  | a :: b :: c :: d :: rest =>
      have enough : Word.ofBigEndian a b c d ≤ rest.length := by
        simp only [Frame.wanted, Frame.overhead, Word.width, List.length_cons] at enough
        omega
      rw [Frame.scan_cons, if_neg (Nat.not_lt_of_le enough)]
      split <;> simp

theorem keeps_settled (inbox : Bytes) (i : Intake) : (i.settled inbox).Keeps inbox := fun ready =>
  .inr (scan_of_wanted (of_decide_eq_true ready))

end Intake

/-- Who has to wait for a frame has the beginning of one, and it may go on. -/
theorem Stream.unfinished_of_waiting {limit : Limit} {s : Stream}
    (waits : s.next limit = .waiting) :
    Frame.scan limit s.inbox = .incomplete ∧ s.ended = false := by
  rw [next] at waits
  split at waits
  case isTrue => cases waits
  case isFalse =>
    split at waits
    case h_1 => cases waits
    case h_2 => cases waits
    case h_3 scanned =>
      refine ⟨scanned, ?_⟩
      split at waits
      case h_1 => cases waits
      case h_2 =>
        split at waits
        case isTrue isOpen => exact Bool.eq_false_iff.mpr isOpen
        case isFalse => split at waits <;> cases waits

/-! ## What each side has left to do -/

/-- What was written is taken up by the pipe, where it counts as much. -/
theorem Asking.load_collect (byte : Nat) (a : Asking) :
    (a.setStream { a.sending.stream with written := [] }).load byte
      + a.sending.stream.written.length * byte = a.load byte := by
  simp only [Asking.load, Sending.load, setStream, List.length_nil]
  omega

theorem Answering.load_collect (a : Answering) :
    Answering.load { a with stream := { a.stream with written := [] } }
      + a.stream.written.length * 3 = a.load := by
  simp only [Answering.load, share, List.length_nil]
  omega

theorem Intake.length_inbox_hand (i : Intake) (s : Stream) :
    (i.hand s).inbox.length = s.inbox.length + i.pieces.flatten.length := by
  simp [hand, Stream.feed, List.length_flatten]

/-- Who looks for a frame and finds the beginning of one has read something since. -/
theorem Intake.Keeps.length_pos {i : Intake} {s : Stream} (keeps : i.Keeps s.inbox)
    (ready : i.isReady = true) {limit : Limit}
    (unfinished : Frame.scan limit (i.hand s).inbox = .incomplete) :
    0 < i.pieces.flatten.length := by
  rcases keeps ready with there | whole
  · exact List.length_pos_iff.mpr there
  · refine List.length_pos_iff.mpr fun none => whole limit ?_
    have nothing : i.pieces.reverse.flatten = [] := by simpa using none
    rwa [hand, nothing, Stream.feed, List.append_nil] at unfinished

namespace Loopback

variable {l : Loopback} {part : Part}

theorem bound_turns (turns : Turns) (l : Loopback) :
    Loopback.bound { l with turns } + l.turns.cost l.writes = l.bound + turns.cost l.writes := by
  show 16 * l.load + l.asking.initiator.pendingCount + turns.cost l.writes + _ =
    16 * l.load + l.asking.initiator.pendingCount + l.turns.cost l.writes + _
  omega

theorem bound_rest (head : l.turns.awake.head? = some part) :
    l.rest.bound + part.cost l.writes ≤ l.bound := by
  have cost := Turns.cost_rest l.writes head
  have same := bound_turns l.turns.rest l
  rw [rest]
  omega

theorem bound_rest_lt (head : l.turns.awake.head? = some part) : l.rest.bound < l.bound :=
  Nat.lt_of_lt_of_le (Nat.lt_add_of_pos_right (part.cost_pos l.writes)) (bound_rest head)

theorem bound_defer (head : l.turns.awake.head? = some part) :
    l.defer.bound + (Turns.operations - l.turns.left) ≤ l.bound := by
  have cost := Turns.cost_defer l.writes head
  have same := bound_turns l.turns.defer l
  rw [defer]
  omega

theorem bound_wake (part : Part) (l : Loopback) :
    (l.wake part).bound ≤ l.bound + part.cost l.writes := by
  have cost := Turns.cost_wake_le l.writes part l.turns
  have same := bound_turns (l.turns.wake part) l
  rw [wake]
  omega

/-- Waking a part on a condition. -/
theorem bound_wakeIf {c : Prop} [Decidable c] (part : Part) {cleared : Loopback}
    (same : cleared.bound = l.bound) :
    (if c then cleared.wake part else l).bound ≤ l.bound + 3 := by
  split
  · have := bound_wake part cleared
    have := part.cost_le cleared.writes
    omega
  · exact Nat.le_add_right _ _

theorem bound_wakeForRequests (l : Loopback) : l.wakeForRequests.bound ≤ l.bound + 3 :=
  bound_wakeIf .responder rfl

theorem bound_wakeForReplies (l : Loopback) : l.wakeForReplies.bound ≤ l.bound + 3 :=
  bound_wakeIf .reader rfl

theorem bound_wakeForRequestRoom (l : Loopback) : l.wakeForRequestRoom.bound ≤ l.bound + 3 :=
  bound_wakeIf .writer rfl

theorem bound_wakeForReplyRoom (l : Loopback) : l.wakeForReplyRoom.bound ≤ l.bound + 3 :=
  bound_wakeIf .responder rfl

theorem bound_closePipes (l : Loopback) : l.closePipes.bound ≤ l.bound + 12 := by
  let closed : Loopback :=
    { l with
      requests := { l.requests with closed := true }
      replies := { l.replies with closed := true } }
  have first := bound_wakeForReplies closed
  have second := bound_wakeForReplyRoom closed.wakeForReplies
  have third := bound_wakeForRequests closed.wakeForReplies.wakeForReplyRoom
  have last := bound_wakeForRequestRoom closed.wakeForReplies.wakeForReplyRoom.wakeForRequests
  have same : closed.bound = l.bound := rfl
  show closed.wakeForReplies.wakeForReplyRoom.wakeForRequests.wakeForRequestRoom.bound ≤ _
  omega

/-! ## Nobody is woken in vain -/

theorem wakeForRequests_of_quiet (quiet : l.requests.Quiet) : l.wakeForRequests = l := by
  refine if_neg fun ⟨waits, there⟩ => ?_
  obtain ⟨empty, isOpen⟩ := quiet waits
  exact there.elim (absurd empty) (Bool.eq_false_iff.mp isOpen)

theorem wakeForReplies_of_quiet (quiet : l.replies.Quiet) : l.wakeForReplies = l := by
  refine if_neg fun ⟨waits, there⟩ => ?_
  obtain ⟨empty, isOpen⟩ := quiet waits
  exact there.elim (absurd empty) (Bool.eq_false_iff.mp isOpen)

/-- Once both pipes are closed and nobody waits for them, there is nothing left to close. -/
theorem closePipes_of_shut
    (requests : l.requests.closed = true ∧ l.requests.readerWaits = false ∧
      l.requests.writerWaits = false)
    (replies : l.replies.closed = true ∧ l.replies.readerWaits = false ∧
      l.replies.writerWaits = false) : l.closePipes = l := by
  have first : { l.requests with closed := true } = l.requests := by rw [← requests.1]
  have second : { l.replies with closed := true } = l.replies := by rw [← replies.1]
  rw [closePipes, first, second]
  simp [wakeForReplies, wakeForReplyRoom, wakeForRequests, wakeForRequestRoom, requests, replies]

/-- What all turns keep to: nobody waits for what is there, and who looks for a frame finds one. -/
structure Booked (l : Loopback) : Prop where
  requests : l.requests.Quiet
  replies : l.replies.Quiet
  /-- Nobody waits for room once the initiator is over, so closing the pipes again wakes nobody. -/
  released : l.asking.status ≠ .running →
    l.requests.writerWaits = false ∧ l.replies.writerWaits = false
  /-- The pipe has seen the end of what the writer writes. -/
  ends : l.asking.sending.stream.writeClosed = true → l.requests.closed = true
  requestIntake : l.requestIntake.Keeps l.answering.stream.inbox
  replyIntake : l.replyIntake.Keeps l.asking.sending.stream.inbox

theorem Booked.turns (booked : l.Booked) (turns : Turns) : Booked { l with turns } :=
  ⟨booked.requests, booked.replies, booked.released, booked.ends, booked.requestIntake,
    booked.replyIntake⟩

end Loopback

end RoundTrip
