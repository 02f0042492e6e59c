import RoundTrip.Link.Loopback
import RoundTrip.Proofs.Link.Pipe

/-!
# Who waits for what

A part that gets no turn has ended, or waits for something that is not there: the reading side of a
pipe for bytes, its writing side for room (`Loopback.Rests`). Whoever makes it be there wakes the
part (`holds_wakeForRequests` and its kin) and leaves all others as they are
(`held_wakeForRequests` and its kin), and closing both pipes wakes all that wait for them
(`held_closePipes`).

So while one part is at work (`Loopback.Busy`) each of the others is to get a turn or has nothing
to do, and in the end this holds of all (`Loopback.Attended`).
-/

namespace RoundTrip

/-! ## Places -/

namespace Turns

/-- This part is to get a turn. -/
def Holds (part : Part) (t : Turns) : Prop := part ∈ t.awake ∨ part ∈ t.deferred

variable {t : Turns} {part other : Part}

theorem holds_wake (holds : t.Holds part) (other : Part) : (t.wake other).Holds part := by
  rw [wake]
  split
  · exact holds
  · exact holds.imp_left (List.mem_append_left _)

theorem holds_wakeDeadlines (holds : t.Holds part) (count : Nat) :
    (t.wakeDeadlines count).Holds part :=
  holds.imp_left (List.mem_append_left _)

theorem head_wake (head : t.awake.head? = some part) (other : Part) :
    (t.wake other).awake.head? = some part := by
  rw [wake]
  split
  · exact head
  · rw [List.head?_append, head]
    rfl

theorem head_wakeDeadlines (head : t.awake.head? = some part) (count : Nat) :
    (t.wakeDeadlines count).awake.head? = some part := by
  rw [wakeDeadlines, List.head?_append, head]
  rfl

/-- Only the part whose turn it is gives up its place. -/
theorem holds_rest (head : t.awake.head? = some other) (differ : part ≠ other)
    (holds : t.Holds part) : t.rest.Holds part := by
  obtain ⟨later, awake⟩ := List.head?_eq_some_iff.mp head
  refine (mem_callBack part _).mpr (holds.imp_left fun member => ?_)
  rw [awake] at member ⊢
  exact (List.mem_cons.mp member).resolve_left differ

theorem holds_defer (head : t.awake.head? = some other) (holds : t.Holds part) :
    t.defer.Holds part := by
  obtain ⟨later, awake⟩ := List.head?_eq_some_iff.mp head
  refine (mem_callBack part _).mpr ?_
  simp only [awake, List.tail_cons, List.take_succ_cons, List.take_zero, List.cons_append,
    List.nil_append]
  rcases holds with member | member
  · rw [awake] at member
    exact (List.mem_cons.mp member).elim (fun own => .inr (own ▸ List.mem_cons_self)) .inl
  · exact .inr (List.mem_cons_of_mem _ member)

/-- Waking gives places and takes none. -/
theorem deferred_wake (part : Part) (t : Turns) : (t.wake part).deferred = t.deferred := by
  rw [wake]
  split <;> rfl

/-- Nobody is left behind. -/
theorem deferred_callBack (t : Turns) : t.callBack.awake = [] → t.callBack.deferred = [] := by
  rw [callBack]
  split
  case isTrue => exact fun _ => rfl
  case isFalse busy => exact fun none => absurd (.inl none) busy

end Turns

/-! ## Rest -/

namespace Pipe

/-- The writing side waits for room, and there is none. -/
def Full (capacity : Nat) (p : Pipe) : Prop :=
  p.writerWaits = true ∧ capacity ≤ p.content.length ∧ p.closed = false

instance (capacity : Nat) (p : Pipe) : Decidable (p.Full capacity) :=
  inferInstanceAs (Decidable (_ ∧ _ ∧ _))

/-- The reading side does not wait for what is there. -/
def Quiet (p : Pipe) : Prop := p.readerWaits = true → p.content = [] ∧ p.closed = false

/-- Nobody can wait for what a closed pipe may still bring. -/
theorem Quiet.readerWaits {p : Pipe} (quiet : p.Quiet) (closed : p.closed = true) :
    p.readerWaits = false :=
  Bool.eq_false_iff.mpr fun waits => Bool.eq_false_iff.mp (quiet waits).2 closed

/-- The reading side waits for bytes, and there are none. -/
def Dry (p : Pipe) : Prop := p.readerWaits = true ∧ p.content = [] ∧ p.closed = false

theorem Full.content_ne_nil {capacity : Nat} {p : Pipe} (full : p.Full capacity)
    (room : 0 < capacity) : p.content ≠ [] := by
  intro empty
  have held := full.2.1
  rw [empty] at held
  exact Nat.not_lt_of_le held room

end Pipe

namespace Intake

variable {p q : Pipe} {i j : Intake}

/-- Reading takes some of the content of a pipe, and nothing else. -/
theorem read?_eq_some (read : i.read? p = some (q, j)) : ∃ content, q = { p with content } := by
  rw [read?] at read
  split at read
  · cases read
  · cases read
    exact ⟨_, rfl⟩

theorem read?_eq_none (none : i.read? p = none) : p.content = [] := by
  rw [read?] at none
  split at none
  · assumption
  · cases none

end Intake

/-- What the two sides keep to in all turns: a side that runs has not shut its write side, and the
initiator is over only when its reader and its writer are. -/
structure Sides (asking : Asking) (answering : Answering) : Prop where
  writer : asking.sending.Sound
  asked : asking.sending.stream.written = []
  stopped : asking.reader ≠ .running → asking.sending.shutdown = true
  finished : asking.status ≠ .running → asking.sending.writer.status ≠ .running
  isOpen : answering.status = .running → answering.stream.writeClosed = false
  answered : answering.stream.written = []

namespace Loopback

/-- The writer has ended, or has nothing to write, or waits for room in the middle of a frame. -/
def WriterRests (l : Loopback) : Prop :=
  let sending := l.asking.sending
  sending.writer.status ≠ .running ∨
  (sending.writer.status = .running ∧ sending.writer.unsent = [] ∧ sending.writer.queue = [] ∧
    l.asking.initiator.outbound.queued = [] ∧ sending.shutdown = false) ∨
  (sending.writer.status = .running ∧ sending.writer.unsent ≠ [] ∧ l.requests.Full l.capacity)

/-- The reader has ended, and all is over if the writer has, or it waits for the bytes of a
frame. -/
def ReaderRests (l : Loopback) : Prop :=
  (l.asking.reader ≠ .running ∧
    (l.asking.sending.writer.status = .running ∨ l.asking.status ≠ .running)) ∨
  (l.asking.reader = .running ∧ l.asking.sending.shutdown = false ∧
    l.replyIntake.isReady = false ∧ l.replies.Dry)

/-- The responder has ended, or waits for the bytes of a frame, or for room in the middle of a
reply. -/
def ResponderRests (l : Loopback) : Prop :=
  l.answering.status ≠ .running ∨
  (l.answering.status = .running ∧ l.answering.unsent = [] ∧ l.answering.shutdown = false ∧
    l.requestIntake.isReady = false ∧ l.requests.Dry) ∨
  (l.answering.status = .running ∧ l.answering.unsent ≠ [] ∧ l.replies.Full l.capacity)

/-- A part has nothing to do. -/
def Rests (l : Loopback) : Part → Prop
  | .deadline => True
  | .writer => l.WriterRests
  | .reader => l.ReaderRests
  | .responder => l.ResponderRests

/-- A part is to get a turn, or has nothing to do. -/
def Held (l : Loopback) (part : Part) : Prop := l.turns.Holds part ∨ l.Rests part

/-- When a side is over, both pipes are closed. -/
def Shut (l : Loopback) : Prop :=
  l.asking.status ≠ .running ∨ l.answering.status ≠ .running →
    l.requests.closed = true ∧ l.replies.closed = true

/-- Nobody is forgotten. -/
structure Attended (l : Loopback) : Prop where
  sides : Sides l.asking l.answering
  shut : l.Shut
  called : l.turns.awake = [] → l.turns.deferred = []
  held : ∀ part, l.Held part

/-- It is the turn of this part, and nobody else is forgotten. -/
structure Busy (part : Part) (l : Loopback) : Prop where
  sides : Sides l.asking l.answering
  head : l.turns.awake.head? = some part
  others : ∀ other, other ≠ part → l.Held other

variable {l : Loopback} {part other : Part}

theorem busy_writer (sides : Sides l.asking l.answering)
    (head : l.turns.awake.head? = some .writer) (reader : l.Held .reader)
    (responder : l.Held .responder) : l.Busy .writer := by
  refine ⟨sides, head, ?_⟩
  rintro (_ | _ | _ | _) differ
  · exact .inr trivial
  · exact absurd rfl differ
  · exact reader
  · exact responder

theorem busy_reader (sides : Sides l.asking l.answering)
    (head : l.turns.awake.head? = some .reader) (writer : l.Held .writer)
    (responder : l.Held .responder) : l.Busy .reader := by
  refine ⟨sides, head, ?_⟩
  rintro (_ | _ | _ | _) differ
  · exact .inr trivial
  · exact writer
  · exact absurd rfl differ
  · exact responder

theorem busy_responder (sides : Sides l.asking l.answering)
    (head : l.turns.awake.head? = some .responder) (writer : l.Held .writer)
    (reader : l.Held .reader) : l.Busy .responder := by
  refine ⟨sides, head, ?_⟩
  rintro (_ | _ | _ | _) differ
  · exact .inr trivial
  · exact writer
  · exact reader
  · exact absurd rfl differ

namespace Busy

variable (busy : l.Busy part)
include busy

theorem rest (shut : l.Shut) (rests : l.Rests part) : l.rest.Attended where
  sides := busy.sides
  shut := shut
  called := Turns.deferred_callBack _
  held other := by
    by_cases own : other = part
    · exact .inr (own ▸ rests)
    · exact (busy.others other own).imp_left (Turns.holds_rest busy.head own)

theorem defer (shut : l.Shut) : l.defer.Attended where
  sides := busy.sides
  shut := shut
  called := Turns.deferred_callBack _
  held other := by
    by_cases own : other = part
    · refine .inl (Turns.holds_defer busy.head (.inl ?_))
      rw [own]
      exact List.mem_of_head? busy.head
    · exact (busy.others other own).imp_left (Turns.holds_defer busy.head)

theorem goOn (shut : l.Shut) : l.Attended where
  sides := busy.sides
  shut := shut
  called none := by
    have head := busy.head
    rw [none] at head
    cases head
  held other := by
    by_cases own : other = part
    · exact .inl (.inl (own ▸ List.mem_of_head? busy.head))
    · exact busy.others other own

end Busy

/-! ## Waking -/

/-- Waking a part clears a flag that nobody else looks at. -/
theorem held_wakeIf {c : Prop} [Decidable c] {woken : Part} {cleared : Loopback}
    (held : l.Held part) (turns : cleared.turns = l.turns)
    (rests : ∀ other ≠ woken, l.Rests other → cleared.Rests other) :
    (if c then cleared.wake woken else l).Held part := by
  split
  · by_cases own : part = woken
    · exact .inl (own ▸ Turns.mem_wake woken cleared.turns)
    · exact held.imp (fun holds => Turns.holds_wake (turns ▸ holds) woken) (rests part own)
  · exact held

theorem held_wakeForRequests (held : l.Held part) : l.wakeForRequests.Held part := by
  refine held_wakeIf held rfl fun other differ rests => ?_
  cases other with
  | responder => exact absurd rfl differ
  | deadline | writer | reader => exact rests

theorem held_wakeForReplies (held : l.Held part) : l.wakeForReplies.Held part := by
  refine held_wakeIf held rfl fun other differ rests => ?_
  cases other with
  | reader => exact absurd rfl differ
  | deadline | writer | responder => exact rests

theorem held_wakeForRequestRoom (held : l.Held part) : l.wakeForRequestRoom.Held part := by
  refine held_wakeIf held rfl fun other differ rests => ?_
  cases other with
  | writer => exact absurd rfl differ
  | deadline | reader | responder => exact rests

theorem held_wakeForReplyRoom (held : l.Held part) : l.wakeForReplyRoom.Held part := by
  refine held_wakeIf held rfl fun other differ rests => ?_
  cases other with
  | responder => exact absurd rfl differ
  | deadline | writer | reader => exact rests

/-! What waking leaves alone. -/

theorem wakeForRequests_eq (part : Part) (l : Loopback) :
    ∃ readerWaits turns, l.wakeForRequests =
        { l with requests := { l.requests with readerWaits }, turns } ∧
      Pipe.Quiet { l.requests with readerWaits } ∧
      (l.turns.awake.head? = some part → turns.awake.head? = some part) := by
  rw [wakeForRequests]
  split
  case isTrue => exact ⟨false, _, rfl, (absurd · Bool.false_ne_true), (Turns.head_wake · _)⟩
  case isFalse none =>
    refine ⟨_, _, rfl, fun waits => ?_, id⟩
    have waits : l.requests.readerWaits = true := waits
    simpa [waits] using none

theorem wakeForReplies_eq (part : Part) (l : Loopback) :
    ∃ readerWaits turns, l.wakeForReplies =
        { l with replies := { l.replies with readerWaits }, turns } ∧
      Pipe.Quiet { l.replies with readerWaits } ∧
      (l.turns.awake.head? = some part → turns.awake.head? = some part) := by
  rw [wakeForReplies]
  split
  case isTrue => exact ⟨false, _, rfl, (absurd · Bool.false_ne_true), (Turns.head_wake · _)⟩
  case isFalse none =>
    refine ⟨_, _, rfl, fun waits => ?_, id⟩
    have waits : l.replies.readerWaits = true := waits
    simpa [waits] using none

theorem wakeForRequestRoom_eq (part : Part) (l : Loopback) :
    ∃ turns, l.wakeForRequestRoom =
        { l with requests := { l.requests with writerWaits := false }, turns } ∧
      (l.turns.awake.head? = some part → turns.awake.head? = some part) := by
  rw [wakeForRequestRoom]
  split
  case isTrue => exact ⟨_, rfl, (Turns.head_wake · _)⟩
  case isFalse none =>
    refine ⟨l.turns, ?_, id⟩
    rw [← Bool.eq_false_iff.mpr none]

theorem wakeForReplyRoom_eq (part : Part) (l : Loopback) :
    ∃ turns, l.wakeForReplyRoom =
        { l with replies := { l.replies with writerWaits := false }, turns } ∧
      (l.turns.awake.head? = some part → turns.awake.head? = some part) := by
  rw [wakeForReplyRoom]
  split
  case isTrue => exact ⟨_, rfl, (Turns.head_wake · _)⟩
  case isFalse none =>
    refine ⟨l.turns, ?_, id⟩
    rw [← Bool.eq_false_iff.mpr none]

/-- Bytes for a responder that waits for them wake it, and so does the end of them. -/
theorem holds_wakeForRequests (waits : l.requests.readerWaits = true)
    (there : l.requests.content ≠ [] ∨ l.requests.closed = true) :
    l.wakeForRequests.turns.Holds .responder := by
  rw [wakeForRequests, if_pos ⟨waits, there⟩]
  exact Turns.mem_wake _ _

theorem holds_wakeForReplies (waits : l.replies.readerWaits = true)
    (there : l.replies.content ≠ [] ∨ l.replies.closed = true) :
    l.wakeForReplies.turns.Holds .reader := by
  rw [wakeForReplies, if_pos ⟨waits, there⟩]
  exact Turns.mem_wake _ _

theorem holds_wakeForRequestRoom (waits : l.requests.writerWaits = true) :
    l.wakeForRequestRoom.turns.Holds .writer := by
  rw [wakeForRequestRoom, if_pos waits]
  exact Turns.mem_wake _ _

theorem holds_wakeForReplyRoom (waits : l.replies.writerWaits = true) :
    l.wakeForReplyRoom.turns.Holds .responder := by
  rw [wakeForReplyRoom, if_pos waits]
  exact Turns.mem_wake _ _

/-- Closing both pipes wakes all that wait for them. -/
theorem held_closePipes (held : l.Held part) : l.closePipes.Held part := by
  let closed : Loopback :=
    { l with
      requests := { l.requests with closed := true }
      replies := { l.replies with closed := true } }
  obtain ⟨_, _, first, -⟩ := wakeForReplies_eq part closed
  obtain ⟨_, second, -⟩ := wakeForReplyRoom_eq part closed.wakeForReplies
  obtain ⟨_, _, third, -⟩ :=
    wakeForRequests_eq part closed.wakeForReplies.wakeForReplyRoom
  have all {part : Part} (still : closed.Held part) : l.closePipes.Held part :=
    held_wakeForRequestRoom (held_wakeForRequests (held_wakeForReplyRoom
      (held_wakeForReplies still)))
  rcases held with holds | rests
  · exact all (.inl holds)
  · cases part with
    | deadline => exact .inr trivial
    | reader =>
        rcases rests with ended | ⟨-, -, -, waits, -⟩
        · exact all (.inr (.inl ended))
        · exact held_wakeForRequestRoom (held_wakeForRequests (held_wakeForReplyRoom
            (.inl (holds_wakeForReplies (l := closed) waits (.inr rfl)))))
    | writer =>
        rcases rests with ended | idle | ⟨-, -, waits, -⟩
        · exact all (.inr (.inl ended))
        · exact all (.inr (.inr (.inl idle)))
        · refine .inl (holds_wakeForRequestRoom ?_)
          rw [third, second, first]
          exact waits
    | responder =>
        rcases rests with ended | ⟨-, -, -, -, waits, -⟩ | ⟨-, -, waits, -⟩
        · exact all (.inr (.inl ended))
        · refine held_wakeForRequestRoom (.inl (holds_wakeForRequests ?_ ?_))
          · rw [second, first]
            exact waits
          · rw [second, first]
            exact .inr rfl
        · refine held_wakeForRequestRoom (held_wakeForRequests (.inl (holds_wakeForReplyRoom ?_)))
          rw [first]
          exact waits

/-- Both pipes are closed and nobody waits for them, and who takes the turn has it still. -/
theorem closePipes_eq (part : Part) (l : Loopback) :
    ∃ turns, l.closePipes =
        { l with
          requests :=
            { l.requests with closed := true, readerWaits := false, writerWaits := false }
          replies := { l.replies with closed := true, readerWaits := false, writerWaits := false }
          turns } ∧
      (l.turns.awake.head? = some part → turns.awake.head? = some part) := by
  let closed : Loopback :=
    { l with
      requests := { l.requests with closed := true }
      replies := { l.replies with closed := true } }
  obtain ⟨r, _, first, quiet, kept⟩ := wakeForReplies_eq part closed
  obtain ⟨_, second, kept'⟩ := wakeForReplyRoom_eq part closed.wakeForReplies
  rw [first] at second kept'
  obtain ⟨r', _, third, quiet', kept''⟩ :=
    wakeForRequests_eq part closed.wakeForReplies.wakeForReplyRoom
  rw [first, second] at third kept'' quiet'
  obtain ⟨turns, last, done⟩ :=
    wakeForRequestRoom_eq part closed.wakeForReplies.wakeForReplyRoom.wakeForRequests
  rw [first, second, third] at last done
  obtain rfl : r = false := quiet.readerWaits rfl
  obtain rfl : r' = false := quiet'.readerWaits rfl
  refine ⟨turns, ?_, fun head => done (kept'' (kept' (kept head)))⟩
  show closed.wakeForReplies.wakeForReplyRoom.wakeForRequests.wakeForRequestRoom = _
  rw [first, second, third, last]

end Loopback

end RoundTrip
