import RoundTrip.Settings.Basic

/-!
# Settings and the frames that they need

The sizes of an exchange are checked before a stream is there, payloads when they are
written. Both checks come to the capacity of a frame (`problems_eq`, `refuses_iff`), and no
length that is taken on the way is beyond 64 bits.

Main result: a size is reported just if its payloads are refused, and an exchange without
problems has frames that are written and read (`problems_match_frames`).
-/

namespace RoundTrip

namespace Frame

/-- No payload of this size is written under the limit. -/
def Refuses (limit : Limit) (size : Nat) : Prop :=
  ∀ payload : Bytes, payload.length = size → encode limit payload = .error (.oversized size)

theorem refuses_iff {limit : Limit} {size : Nat} : Refuses limit size ↔ capacity limit < size := by
  constructor
  · intro refused
    have none := refused (List.replicate size 0) List.length_replicate
    rw [encode_eq, List.length_replicate] at none
    split at none
    case isTrue => cases none
    case isFalse above => exact Nat.lt_of_not_le above
  · rintro above payload rfl
    rw [encode_eq, if_neg (Nat.not_le_of_lt above)]

/-- A payload that is not refused has a frame, which is read under the same limit. -/
theorem written_and_read {limit : Limit} {payload : Bytes}
    (carried : ¬ Refuses limit payload.length) :
    ∃ frame, encode limit payload = .ok frame ∧
      ∀ rest, decode limit (frame ++ rest) = (.ok (some payload), rest) := by
  have fits := Nat.le_of_not_lt (mt refuses_iff.mpr carried)
  refine ⟨ofPayload payload, by rw [encode_eq, if_pos fits], ?_⟩
  intro rest
  rw [decode, scan_ofPayload fits]

end Frame

namespace Payload

/-- The length of a payload, if 64 bits hold it. -/
def totalLength64? (filler : Nat) : Option Nat :=
  if CorrelationId.width + filler < UInt64.size then some (totalLength filler) else none

end Payload

namespace Exchange

variable {e : Exchange}

theorem uploadTooLarge_iff :
    (∃ size capacity, .uploadTooLarge size capacity ∈ e.problems) ↔
      Frame.Refuses e.maxFrameSize (4 + e.uploadSize) := by
  rw [problems_eq, Frame.refuses_iff]
  simp [requestLength, Payload.totalLength, Word.width]

theorem downloadTooLarge_iff :
    (∃ size capacity, .downloadTooLarge size capacity ∈ e.problems) ↔
      Frame.Refuses e.maxFrameSize (4 + e.downloadSize) := by
  rw [problems_eq, Frame.refuses_iff]
  simp [replyLength, Payload.totalLength, Word.width]

theorem noFrames_iff : .noFrames ∈ e.problems ↔ e.maxFrameSize = some 0 := by
  rw [problems_eq]
  simp

/-- A frame of no bytes has no room even for the prefix of a payload. -/
theorem refuses_of_noFrames (reported : .noFrames ∈ e.problems) (filler : Nat) :
    Frame.Refuses e.maxFrameSize (4 + filler) := by
  rw [Frame.refuses_iff, noFrames_iff.mp reported, Frame.capacity, Nat.zero_min]
  omega

theorem accept_eq_ok_iff {accepted : Exchange} :
    e.accept = .ok accepted ↔ e.problems = [] ∧ accepted = e := by
  rw [accept]
  cases e.problems with
  | nil => simpa using eq_comm
  | cons => simp

theorem problems_eq_nil_iff :
    e.problems = [] ↔
      ¬ Frame.Refuses e.maxFrameSize (4 + e.uploadSize) ∧
        ¬ Frame.Refuses e.maxFrameSize (4 + e.downloadSize) ∧ e.timeout ≠ 0 := by
  have limit : e.maxFrameSize = some 0 → Frame.Refuses e.maxFrameSize (4 + e.uploadSize) :=
    fun zero => refuses_of_noFrames (noFrames_iff.mpr zero) e.uploadSize
  rw [Frame.refuses_iff] at limit
  rw [problems_eq, Frame.refuses_iff, Frame.refuses_iff]
  simp only [List.append_eq_nil_iff, ite_eq_right_iff, reduceCtorEq, imp_false, requestLength,
    replyLength, Payload.totalLength, Word.width]
  constructor
  · rintro ⟨⟨⟨upload, download⟩, timeout⟩, -⟩
    exact ⟨upload, download, timeout⟩
  · rintro ⟨upload, download, timeout⟩
    exact ⟨⟨⟨upload, download⟩, timeout⟩, fun zero => upload (limit zero)⟩

/-- Sums of 64 bits are enough to find the problems: those that would not fit are not taken. -/
theorem problemsBy_totalLength64? (e : Exchange) :
    e.problemsBy Payload.totalLength64? = some e.problems := by
  rw [problems_eq]
  refine problemsBy_eq ?_ e
  intro filler small
  have fits : CorrelationId.width + filler < UInt64.size := by
    simp only [Frame.largest, Word.bound, Word.width, UInt64.size] at *
    omega
  exact if_pos fits

/-- A size is reported just if no payload with this much filler is written under the limit,
and finding that out takes no sum of 64 bits or more. Where a limit of zero is reported,
both sizes are. An exchange is accepted just if neither size is refused and there is time;
then its payloads are written, and a reader with the same limit takes them. -/
theorem problems_match_frames (e : Exchange) :
    ((∃ size capacity, .uploadTooLarge size capacity ∈ e.problems) ↔
      Frame.Refuses e.maxFrameSize (4 + e.uploadSize)) ∧
    ((∃ size capacity, .downloadTooLarge size capacity ∈ e.problems) ↔
      Frame.Refuses e.maxFrameSize (4 + e.downloadSize)) ∧
    e.problemsBy Payload.totalLength64? = some e.problems ∧
    (.noFrames ∈ e.problems →
      (∃ size capacity, .uploadTooLarge size capacity ∈ e.problems) ∧
        ∃ size capacity, .downloadTooLarge size capacity ∈ e.problems) ∧
    ((∃ accepted, e.accept = .ok accepted) ↔
      ¬ Frame.Refuses e.maxFrameSize (4 + e.uploadSize) ∧
        ¬ Frame.Refuses e.maxFrameSize (4 + e.downloadSize) ∧ e.timeout ≠ 0) ∧
    ∀ accepted, e.accept = .ok accepted → accepted = e ∧
      ∀ payload : Bytes,
        payload.length = 4 + e.uploadSize ∨ payload.length = 4 + e.downloadSize →
        ∃ frame, Frame.encode e.maxFrameSize payload = .ok frame ∧
          ∀ rest, Frame.decode e.maxFrameSize (frame ++ rest) = (.ok (some payload), rest) := by
  refine ⟨uploadTooLarge_iff, downloadTooLarge_iff, problemsBy_totalLength64? e, ?_, ?_, ?_⟩
  · intro reported
    exact ⟨uploadTooLarge_iff.mpr (refuses_of_noFrames reported e.uploadSize),
      downloadTooLarge_iff.mpr (refuses_of_noFrames reported e.downloadSize)⟩
  · rw [← problems_eq_nil_iff]
    simp [accept_eq_ok_iff]
  · intro accepted accepts
    obtain ⟨none, same⟩ := accept_eq_ok_iff.mp accepts
    obtain ⟨upload, download, -⟩ := problems_eq_nil_iff.mp none
    refine ⟨same, ?_⟩
    rintro payload (length | length)
    · exact Frame.written_and_read (length ▸ upload)
    · exact Frame.written_and_read (length ▸ download)

/-- The largest upload that a frame without a limit carries, and the next one. -/
example : ({ uploadSize := 4294967291 } : Exchange).problems = [] ∧
    ({ uploadSize := 4294967292 } : Exchange).problems =
      [.uploadTooLarge 4294967292 4294967295] := by
  decide

end Exchange

end RoundTrip
