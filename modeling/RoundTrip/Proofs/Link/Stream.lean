import RoundTrip.Link.Stream
import RoundTrip.Proofs.Frame

/-!
# Streams on which nothing fails

On an intact stream a reader of frames finds what `Frame.scan` finds, and the end of the
stream when nothing follows (`next_of_intact`); a writer waits for room or gets rid of
bytes (`write_of_intact`). A part that works on a stream comes to rest if every step
lowers some measure (`settle_rests`).
-/

namespace RoundTrip

/-- Steps that keep an invariant and lower a measure come to rest, and the measure says
how much fuel is enough. -/
theorem settle_rests {σ : Type} {step? : σ → Option σ} {Holds : σ → Prop} {measure : σ → Nat}
    (keeps : ∀ s next, Holds s → step? s = some next → Holds next ∧ measure next < measure s)
    {fuel : Nat} {s : σ} (holds : Holds s) (enough : measure s ≤ fuel) :
    Holds (settle step? fuel s) ∧ step? (settle step? fuel s) = none := by
  induction fuel generalizing s with
  | zero =>
      refine ⟨holds, ?_⟩
      cases stepped : step? s with
      | none => exact stepped
      | some next =>
          have lower := (keeps s next holds stepped).2
          omega
  | succ fuel ih =>
      simp only [settle]
      cases stepped : step? s with
      | none => exact ⟨holds, stepped⟩
      | some next =>
          obtain ⟨still, lower⟩ := keeps s next holds stepped
          exact ih still (by omega)

theorem Status.finished_ne_running : finished ≠ running := by simp

theorem Status.failed_ne_running (fault : Fault) : failed fault ≠ running := by simp

theorem Status.and_ne_running {first second : Status} (ended : first ≠ .running)
    (also : second ≠ .running) : first.and second ≠ .running := by
  cases first with
  | running => exact absurd rfl ended
  | finished => exact also
  | failed => exact nofun

namespace Stream

/-- Neither side fails, and who cannot go on waits. -/
structure Intact (s : Stream) : Prop where
  readFailure : s.readFailure = none
  readable : s.unreadable = false
  writeFailure : s.writeFailure = none
  writable : s.unwritable = false

variable {s : Stream} (intact : s.Intact)

include intact

theorem next_of_intact (limit : Limit) :
    s.next limit =
      match Frame.scan limit s.inbox with
      | .frame payload rest => .frame payload rest
      | .oversized size => .failed (.oversized size)
      | .incomplete =>
          if ¬ s.ended then .waiting
          else if s.inbox = [] then .finished
          else .failed .truncated := by
  have readable : ¬ (s.unreadable = true ∧ s.inbox ≠ []) := by simp [intact.readable]
  rw [next, if_neg readable]
  cases Frame.scan limit s.inbox with
  | frame | oversized => rfl
  | incomplete => simp only [intact.readFailure]

theorem write_of_intact (bytes : Bytes) :
    s.write bytes =
      if s.room = some 0 then .waiting else .taken (s.accept bytes).1 (s.accept bytes).2 := by
  simp only [write, intact.writeFailure, intact.writable, Bool.false_eq_true, ↓reduceIte]

omit intact

/-- Writing changes what is written and how much room is left, and nothing else. -/
theorem accept_eq (bytes : Bytes) (s : Stream) :
    (s.accept bytes).2 =
      { s with room := (s.accept bytes).2.room, written := (s.accept bytes).2.written } := by
  unfold accept
  split <;> rfl

theorem accept_of_write {bytes unsent : Bytes} {stream : Stream}
    (writes : s.write bytes = .taken unsent stream) : s.accept bytes = (unsent, stream) := by
  rw [write] at writes
  split at writes
  · cases writes
  · split at writes
    · cases writes
    · split at writes
      · cases writes
      · cases writes
        rfl

/-- What arrives, what is written and what can be written does not make a stream fail. -/
theorem Intact.update (intact : s.Intact) {inbox written : Bytes} {ended writeClosed : Bool}
    {room : Option Nat} : Intact { s with inbox, ended, room, written, writeClosed } :=
  ⟨intact.readFailure, intact.readable, intact.writeFailure, intact.writable⟩

theorem intact_accept (intact : s.Intact) (bytes : Bytes) : (s.accept bytes).2.Intact := by
  rw [accept_eq]
  exact intact.update

theorem ended_accept (bytes : Bytes) (s : Stream) : (s.accept bytes).2.ended = s.ended := by
  rw [accept_eq]

/-- Where there is room for everything, everything is written. -/
theorem accept_of_room (bytes : Bytes) (unlimited : s.room = none) :
    s.accept bytes = ([], { s with written := s.written ++ bytes }) := by
  rw [accept, unlimited]

/-- Shutting down tells nothing but that nothing more is written. -/
theorem shutWrite_eq (s : Stream) :
    s.shutWrite = { s with writeClosed := s.shutWrite.writeClosed } := by
  unfold shutWrite
  split <;> rfl

end Stream

end RoundTrip
