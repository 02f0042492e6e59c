import RoundTrip.Word
import RoundTrip.Fault

/-!
# Payloads and their correlation prefix

The first four bytes of a payload name the request it belongs to. The side that
asked reads them as a word, least significant byte first (`CorrelationId.read`);
the side that answers copies them unread (`CorrelationId.copy`). All that
follows is filler whose length is measured and whose content is not. Writing and
copying are edits of a buffer (`CorrelationId.inPlace`).
-/

namespace RoundTrip

namespace Fault

/-- A payload of `size` bytes has no room for the correlation prefix. -/
def noPrefixIn (size : Nat) : Fault :=
  framing ("Payload shorter than the 4-byte correlation prefix (got " ++ toString size ++ " bytes)")

/-- A request or a reply has no room for the correlation prefix. -/
def noPrefix : Fault :=
  framing "Payload shorter than the 4-byte correlation prefix"

end Fault

namespace CorrelationId

/-- Number of bytes of the correlation prefix. -/
abbrev width : Nat := Word.width

def read : Bytes → Except Fault CorrelationId
  | a :: b :: c :: d :: _ => .ok (Word.ofLittleEndian a b c d)
  | payload => .error (.noPrefixIn payload.length)

/-- Put the id in place of the first four bytes. -/
def write (id : CorrelationId) : Bytes → Except Fault Bytes
  | _ :: _ :: _ :: _ :: filler => .ok (Word.littleEndian id ++ filler)
  | _ => .error .noPrefix

/-- Put the first four bytes of the request in place of those of the reply. -/
def copy : Bytes → Bytes → Except Fault Bytes
  | a :: b :: c :: d :: _, _ :: _ :: _ :: _ :: filler => .ok (a :: b :: c :: d :: filler)
  | _, _ => .error .noPrefix

/-- Reading finds an id just if the payload begins with its four bytes. -/
theorem read_eq_ok_iff {payload : Bytes} {id : CorrelationId} :
    read payload = .ok id ↔ Word.littleEndian id <+: payload := by
  constructor
  · intro found
    match payload, found with
    | a :: b :: c :: d :: rest, found =>
        cases found
        rw [Word.littleEndian_ofLittleEndian]
        exact ⟨rest, rfl⟩
  · rintro ⟨rest, rfl⟩
    simp only [Word.littleEndian, List.cons_append, read, Word.ofLittleEndian_littleEndian]

theorem read_of_short {payload : Bytes} (short : payload.length < width) :
    read payload = .error (.noPrefixIn payload.length) := by
  match payload, short with
  | [], _ | [_], _ | [_, _], _ | [_, _, _], _ => rfl
  | _ :: _ :: _ :: _ :: rest, short =>
      simp only [List.length_cons, width, Word.width] at short
      omega

theorem exists_read_of_long {payload : Bytes} (long : width ≤ payload.length) :
    ∃ id, read payload = .ok id := by
  match payload, long with
  | a :: b :: c :: d :: _, _ => exact ⟨Word.ofLittleEndian a b c d, rfl⟩

end CorrelationId

namespace Payload

/-- The length of a payload with this much filler. -/
def totalLength (filler : Nat) : Nat := CorrelationId.width + filler

theorem totalLength_eq (filler : Nat) : totalLength filler = filler + 4 := Nat.add_comm 4 filler

def filler (size : Nat) : Bytes := List.replicate size 0

def request (id : CorrelationId) (uploadSize : Nat) : Bytes :=
  Word.littleEndian id ++ filler uploadSize

/-- The answer to a request: its prefix, then filler. -/
def reply (request : Bytes) (downloadSize : Nat) : Except Fault Bytes :=
  CorrelationId.copy request (filler (totalLength downloadSize))

@[simp] theorem length_request (id : CorrelationId) (uploadSize : Nat) :
    (request id uploadSize).length = totalLength uploadSize := by
  simp [request, filler, totalLength]

theorem read_request (id : CorrelationId) (uploadSize : Nat) :
    CorrelationId.read (request id uploadSize) = .ok id := by
  simp only [request, Word.littleEndian, List.cons_append, CorrelationId.read]
  rw [Word.ofLittleEndian_littleEndian]

/-- A request with a prefix is answered with this prefix and filler. -/
theorem reply_of_long {request : Bytes} (long : CorrelationId.width ≤ request.length)
    (downloadSize : Nat) :
    reply request downloadSize = .ok (request.take CorrelationId.width ++ filler downloadSize) := by
  match request, long with
  | a :: b :: c :: d :: rest, _ =>
      rw [reply, totalLength_eq]
      rfl

theorem reply_of_short {request : Bytes} (short : request.length < CorrelationId.width)
    (downloadSize : Nat) : reply request downloadSize = .error .noPrefix := by
  match request, short with
  | [], _ | [_], _ | [_, _], _ | [_, _, _], _ => rfl
  | _ :: _ :: _ :: _ :: rest, short =>
      simp only [List.length_cons, CorrelationId.width, Word.width] at short
      omega

end Payload

end RoundTrip
