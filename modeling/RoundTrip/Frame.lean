import RoundTrip.Word
import RoundTrip.Fault

/-!
# Frames

A frame is the length of a payload as a word, most significant byte first, and
then the payload. A limit bounds the payloads that are written and read; without
one, the word does.

* `Frame.scan` looks for one frame at the front of a buffer, and `Frame.decode` takes it.
* `Frame.drain` takes frames off a buffer until none is left.
* `Frame.scanEnd`, `Frame.decodeEnd` and `Frame.drainEnd` do the same when no byte will
  follow.
-/

namespace RoundTrip

/-- The largest payload admitted, if one is set. -/
abbrev Limit := Option Nat

namespace Frame

/-- Number of bytes in front of a payload. -/
abbrev overhead : Nat := Word.width

/-- The largest size that a length word can hold. -/
def largest : Nat := Word.bound - 1

/-- The largest payload that a frame under this limit carries. -/
def capacity (limit : Limit) : Nat :=
  match limit with
  | none => largest
  | some m => min m largest

/-- The limit forbids payloads of this size. -/
def forbids (limit : Limit) (size : Nat) : Bool := limit.any (· < size)

def ofPayload (payload : Bytes) : Bytes :=
  Word.bigEndian payload.length ++ payload

/-- The frame of a payload, unless the limit forbids it or no word holds its size. -/
def encode (limit : Limit) (payload : Bytes) : Except Fault Bytes :=
  if forbids limit payload.length then .error (.oversized payload.length)
  else if Word.bound ≤ payload.length then .error (.oversized payload.length)
  else .ok (ofPayload payload)

/-- One call of an encoder: done, or a fault, and the buffer that it leaves. -/
def put (limit : Limit) (payload buffer : Bytes) : Except Fault Unit × Bytes :=
  match encode limit payload with
  | .ok frame => (.ok (), buffer ++ frame)
  | .error fault => (.error fault, buffer)

/-- What stands at the front of a buffer. -/
inductive Scan
  | frame (payload rest : Bytes)
  | incomplete
  | oversized (size : Nat)
deriving DecidableEq, Repr

def scan (limit : Limit) : Bytes → Scan
  | a :: b :: c :: d :: rest =>
      let size := Word.ofBigEndian a b c d
      if forbids limit size then .oversized size
      else if rest.length < size then .incomplete
      else .frame (rest.take size) (rest.drop size)
  | _ => .incomplete

/-- One call of a decoder: a frame, or nothing yet, or a fault, and the buffer that it
leaves. -/
def decode (limit : Limit) (buffer : Bytes) : Except Fault (Option Bytes) × Bytes :=
  match scan limit buffer with
  | .frame payload rest => (.ok (some payload), rest)
  | .incomplete => (.ok none, buffer)
  | .oversized size => (.error (.oversized size), buffer)

theorem capacity_lt (limit : Limit) : capacity limit < Word.bound := by
  unfold capacity
  split <;> simp only [largest, Word.bound] <;> omega

/-- A size that a word holds is forbidden just if it is above the capacity. -/
theorem forbids_iff {size : Nat} (limit : Limit) (small : size < Word.bound) :
    forbids limit size = true ↔ capacity limit < size := by
  cases limit <;> simp [forbids, capacity, largest] <;> omega

/-- A payload has a frame just if the capacity is enough for it. -/
theorem encode_eq (limit : Limit) (payload : Bytes) :
    encode limit payload =
      if payload.length ≤ capacity limit then .ok (ofPayload payload)
      else .error (.oversized payload.length) := by
  have small := capacity_lt limit
  rw [encode]
  rcases Nat.lt_or_ge payload.length Word.bound with holds | beyond
  · simp only [forbids_iff limit holds, Nat.not_le_of_lt holds, ↓reduceIte, ← Nat.not_le, ite_not]
  · rw [if_pos beyond, ite_self, if_neg (by omega)]

theorem length_ofPayload (payload : Bytes) :
    (ofPayload payload).length = overhead + payload.length := by
  simp [ofPayload, overhead]

/-- A frame that the limit admits is found again, whatever follows it. -/
theorem scan_ofPayload {limit : Limit} {payload : Bytes} (fits : payload.length ≤ capacity limit)
    (rest : Bytes) : scan limit (ofPayload payload ++ rest) = .frame payload rest := by
  have small : payload.length < Word.bound := Nat.lt_of_le_of_lt fits (capacity_lt limit)
  simp only [ofPayload, Word.bigEndian, List.cons_append, List.nil_append, scan]
  rw [Word.ofBigEndian_bigEndian small,
    if_neg (mt (forbids_iff limit small).mp (Nat.not_lt.mpr fits))]
  rw [if_neg (by simp)]
  simp

/-- What is found stands in front of the buffer, and the limit admits it. -/
theorem eq_ofPayload_of_scan {limit : Limit} {buffer payload rest : Bytes}
    (found : scan limit buffer = .frame payload rest) :
    buffer = ofPayload payload ++ rest ∧ payload.length ≤ capacity limit := by
  unfold scan at found
  split at found
  · next a b c d tail =>
    simp only at found
    split at found
    · cases found
    · next admitted =>
      split at found
      · cases found
      · next complete =>
        cases found
        have whole : (tail.take (Word.ofBigEndian a b c d)).length = Word.ofBigEndian a b c d := by
          rw [List.length_take]
          omega
        have fits := mt (forbids_iff limit (Word.ofBigEndian_lt a b c d)).mpr admitted
        refine ⟨?_, by omega⟩
        rw [ofPayload, whole, Word.bigEndian_ofBigEndian, List.append_assoc,
          List.take_append_drop]
        rfl
  · cases found

theorem length_rest_of_scan {limit : Limit} {buffer payload rest : Bytes}
    (found : scan limit buffer = .frame payload rest) :
    rest.length + overhead ≤ buffer.length := by
  obtain ⟨rfl, _⟩ := eq_ofPayload_of_scan found
  rw [List.length_append, length_ofPayload]
  omega

/-- The frames taken off a buffer, what is left of it, and the size of the frame
that was refused, if one stopped the draining. -/
structure Drained where
  frames : List Bytes
  rest : Bytes
  refused : Option Nat
deriving DecidableEq, Repr

def drain (limit : Limit) (buffer : Bytes) : Drained :=
  match _found : scan limit buffer with
  | .frame payload rest =>
      let tail := drain limit rest
      { tail with frames := payload :: tail.frames }
  | .incomplete => ⟨[], buffer, none⟩
  | .oversized size => ⟨[], buffer, some size⟩
termination_by buffer.length
decreasing_by
  have shorter := length_rest_of_scan _found
  simp only [overhead, Word.width] at shorter
  omega

theorem drain_of_frame {limit : Limit} {buffer payload rest : Bytes}
    (found : scan limit buffer = .frame payload rest) :
    drain limit buffer =
      { drain limit rest with frames := payload :: (drain limit rest).frames } := by
  rw [drain]
  split
  · next other tail here =>
    rw [found] at here
    cases here
    rfl
  · next here => simp [found] at here
  · next here => simp [found] at here

theorem drain_of_incomplete {limit : Limit} {buffer : Bytes}
    (found : scan limit buffer = .incomplete) : drain limit buffer = ⟨[], buffer, none⟩ := by
  rw [drain]
  split
  · next here => simp [found] at here
  · rfl
  · next here => simp [found] at here

theorem drain_of_oversized {limit : Limit} {buffer : Bytes} {size : Nat}
    (found : scan limit buffer = .oversized size) :
    drain limit buffer = ⟨[], buffer, some size⟩ := by
  rw [drain]
  split
  · next here => simp [found] at here
  · next here => simp [found] at here
  · next other here =>
    rw [found] at here
    cases here
    rfl

/-- What stands at the front of a buffer that no byte will follow. -/
inductive ScanEnd
  | frame (payload rest : Bytes)
  | finished
  | truncated
  | oversized (size : Nat)
deriving DecidableEq, Repr

def scanEnd (limit : Limit) (buffer : Bytes) : ScanEnd :=
  match scan limit buffer with
  | .frame payload rest => .frame payload rest
  | .oversized size => .oversized size
  | .incomplete => if buffer = [] then .finished else .truncated

/-- One call of a decoder when no byte will follow: a frame, or the end, or a fault, and
the buffer that it leaves. -/
def decodeEnd (limit : Limit) (buffer : Bytes) : Except Fault (Option Bytes) × Bytes :=
  match scanEnd limit buffer with
  | .frame payload rest => (.ok (some payload), rest)
  | .finished => (.ok none, buffer)
  | .truncated => (.error .truncated, buffer)
  | .oversized size => (.error (.oversized size), buffer)

/-- The frames taken off a buffer at the end of its stream, what is left, and the
fault that the end reveals. -/
structure DrainedEnd where
  frames : List Bytes
  rest : Bytes
  outcome : Except Fault Unit

def drainEnd (limit : Limit) (buffer : Bytes) : DrainedEnd :=
  let drained := drain limit buffer
  let outcome := match scanEnd limit drained.rest with
    | .oversized size => .error (.oversized size)
    | .truncated => .error .truncated
    | .frame .. | .finished => .ok ()
  ⟨drained.frames, drained.rest, outcome⟩

end Frame

end RoundTrip
