import RoundTrip.Frame

/-!
# Streams

One end of a stream of bytes: what has arrived and was not read, whether more can
follow, how much can be written, and what was written. `Stream.next` says what a
reader of frames finds, `Stream.write` what becomes of bytes that are written.

A part that works on a stream makes single steps, and rests when no step is
possible (`settle`).
-/

namespace RoundTrip

/-- Make steps until none is possible, at most as many as the fuel says. -/
def settle {σ : Type} (step? : σ → Option σ) : (fuel : Nat) → σ → σ
  | 0, s => s
  | fuel + 1, s =>
      match step? s with
      | some next => settle step? fuel next
      | none => s

/-- Make steps until none is possible or no operation is left, and say how many are
left. Some steps are free, and all others are operations. -/
def settleWithin {σ : Type} (step? : σ → Option σ) (isFree : σ → Bool) :
    (fuel operations : Nat) → σ → Nat × σ
  | 0, left, s => (left, s)
  | _, 0, s => (0, s)
  | fuel + 1, left + 1, s =>
      match step? s with
      | some next => settleWithin step? isFree fuel (if isFree s then left + 1 else left) next
      | none => (left + 1, s)

theorem settle_of_none {σ : Type} {step? : σ → Option σ} {s : σ} (rest : step? s = none)
    (fuel : Nat) : settle step? fuel s = s := by
  cases fuel with
  | zero => rfl
  | succ fuel => simp only [settle, rest]

theorem settleWithin_of_none {σ : Type} {step? : σ → Option σ} {s : σ} (rest : step? s = none)
    (isFree : σ → Bool) (fuel operations : Nat) :
    settleWithin step? isFree fuel operations s = (operations, s) := by
  cases fuel with
  | zero => rfl
  | succ fuel =>
      cases operations with
      | zero => rfl
      | succ left => simp only [settleWithin, rest]

/-- Whether a part is at work, and how its work ended. -/
inductive Status
  | running
  | finished
  | failed (fault : Fault)
deriving DecidableEq, Repr

/-- The first failure decides. -/
def Status.and : Status → Status → Status
  | finished, other => other
  | status, _ => status

structure Stream where
  inbox : Bytes := []
  /-- Nothing follows what has arrived. -/
  ended : Bool := false
  readFailure : Option String := none
  /-- What has arrived cannot be read, and a read of no bytes counts as the end. -/
  unreadable : Bool := false
  /-- How many bytes can be written, if not any number. -/
  room : Option Nat := none
  writeFailure : Option String := none
  /-- A write that need not wait gets rid of no byte. -/
  unwritable : Bool := false
  shutdownFailure : Option String := none
  written : Bytes := []
  writeClosed : Bool := false
deriving DecidableEq, Repr

/-- What a reader of frames finds. -/
inductive Arrival
  | frame (payload rest : Bytes)
  | waiting
  | finished
  | failed (fault : Fault)
deriving DecidableEq, Repr

namespace Stream

/-- The next frame. What has arrived is read before a failure or the end is seen,
and the failure before the end. -/
def next (limit : Limit) (s : Stream) : Arrival :=
  if s.unreadable ∧ s.inbox ≠ [] then .finished
  else
    match Frame.scan limit s.inbox with
    | .frame payload rest => .frame payload rest
    | .oversized size => .failed (.oversized size)
    | .incomplete =>
        match s.readFailure with
        | some reason => .failed (.io reason)
        | none =>
            if ¬ s.ended then .waiting
            else if s.inbox = [] then .finished
            else .failed .truncated

def feed (bytes : Bytes) (s : Stream) : Stream := { s with inbox := s.inbox ++ bytes }

/-- Write as much as there is room for, and keep the rest. -/
def accept (bytes : Bytes) (s : Stream) : Bytes × Stream :=
  match s.room with
  | none => ([], { s with written := s.written ++ bytes })
  | some room =>
      let taken := bytes.take room
      (bytes.drop room,
        { s with room := some (room - taken.length), written := s.written ++ taken })

/-- What was not written yet follows what was. -/
theorem written_accept (bytes : Bytes) (s : Stream) :
    (s.accept bytes).2.written ++ (s.accept bytes).1 = s.written ++ bytes := by
  unfold accept
  split <;> simp

theorem inbox_accept (bytes : Bytes) (s : Stream) : (s.accept bytes).2.inbox = s.inbox := by
  unfold accept
  split <;> rfl

/-- What becomes of bytes that are written. -/
inductive Writing
  | waiting
  | failed (fault : Fault)
  | taken (unsent : Bytes) (stream : Stream)
deriving DecidableEq, Repr

/-- Write some bytes. A failure is seen before a lack of room. -/
def write (bytes : Bytes) (s : Stream) : Writing :=
  match s.writeFailure with
  | some reason => .failed (.io reason)
  | none =>
      if s.room = some 0 then .waiting
      else if s.unwritable then .failed (.io "failed to write frame to transport")
      else
        let (unsent, stream) := s.accept bytes
        .taken unsent stream

/-- Shut the write side down, which may fail. -/
def shutWrite (s : Stream) : Stream :=
  if s.shutdownFailure.isSome then s else { s with writeClosed := true }

end Stream

end RoundTrip
