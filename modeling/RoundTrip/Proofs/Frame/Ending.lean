import RoundTrip.Proofs.Frame.Writing

/-!
# The end of a stream

When no byte will follow, a buffer is whole frames, or a length word above the limit comes
behind them, or the stream was cut inside a frame (`Whole`, `Refusing`, and neither). A decoder
that is called until it gives no frame finds out which (`outcome_eq_ok_iff`,
`outcome_eq_oversized_iff`, `outcome_eq_truncated_iff`).

Main result: these calls give the frames that draining gives, and then the end of the stream
just if it ends with a frame; of a row of frames that is cut somewhere they give the frames
before the cut (`truncation_is_detected`).
-/

namespace RoundTrip

namespace Frame

variable {limit : Limit} {bytes : Bytes}

/-- Admitted frames and nothing else. -/
def Whole (limit : Limit) (bytes : Bytes) : Prop :=
  ∃ frames, bytes = row frames ∧ ∀ payload ∈ frames, Admits limit payload.length

/-- Admitted frames, and behind them a length word that is above the limit. -/
def Refusing (limit : Limit) (size : Nat) (bytes : Bytes) : Prop :=
  ∃ frames rest, bytes = row frames ++ rest ∧
    (∀ payload ∈ frames, Admits limit payload.length) ∧ Oversized limit size rest

/-! ## Calls at the end -/

/-- A frame is looked for as ever. Where there is none, the buffer has to be empty. -/
theorem decodeEnd_eq (limit : Limit) (buffer : Bytes) :
    decodeEnd limit buffer =
      match decode limit buffer with
      | (.ok none, left) =>
          if left = [] then (.ok none, left) else (.error (.io "bytes remaining on stream"), left)
      | call => call := by
  rw [decodeEnd, scanEnd, decode]
  cases scan limit buffer with
  | frame | oversized => rfl
  | incomplete => by_cases empty : buffer = [] <;> simp [empty, Fault.truncated]

/-- What each of so many calls gives when no byte will follow, and the buffer that they
leave. -/
def endCalls (limit : Limit) : Nat → Bytes → List (Except Fault (Option Bytes)) × Bytes
  | 0, buffer => ([], buffer)
  | more + 1, buffer =>
      let (result, left) := decodeEnd limit buffer
      let (results, rest) := endCalls limit more left
      (result :: results, rest)

namespace DrainedEnd

variable {d : DrainedEnd}

/-- What the call gives that ends the stream. -/
def last (d : DrainedEnd) : Except Fault (Option Bytes) := d.outcome.map fun _ => none

theorem last_eq_ok_iff : d.last = .ok none ↔ d.outcome = .ok () := by
  rw [last]
  cases d.outcome <;> simp [Except.map]

theorem last_eq_error_iff {fault : Fault} : d.last = .error fault ↔ d.outcome = .error fault := by
  rw [last]
  cases d.outcome <;> simp [Except.map]

end DrainedEnd

/-- To drain to the end is to call until no frame is given. -/
theorem endCalls_drainEnd (limit : Limit) (bytes : Bytes) :
    endCalls limit ((drainEnd limit bytes).frames.length + 1) bytes =
      ((drainEnd limit bytes).frames.map (fun payload => .ok (some payload)) ++
        [(drainEnd limit bytes).last], (drainEnd limit bytes).rest) := by
  simp only [DrainedEnd.last, drainEnd]
  fun_induction drain limit bytes with
  | case1 buffer payload rest found tail ih =>
      rw [List.length_cons, endCalls, decodeEnd, scanEnd, found]
      simp only [tail] at ih ⊢
      rw [ih]
      rfl
  | case2 buffer found =>
      rw [List.length_nil, endCalls, decodeEnd, scanEnd, found]
      by_cases empty : buffer = []
      · simp only [if_pos empty]
        rfl
      · simp only [if_neg empty]
        rfl
  | case3 buffer size found =>
      rw [List.length_nil, endCalls, decodeEnd, scanEnd, found]
      rfl

/-! ## How a stream ends -/

theorem outcome_of_refused {size : Nat} (refused : (drain limit bytes).refused = some size) :
    (drainEnd limit bytes).outcome = .error (.oversized size) := by
  have found := scan_eq_oversized_iff.mpr (((parse_drain limit bytes).2.2 size).mp refused)
  simp only [drainEnd, scanEnd, found]

theorem outcome_of_none (none : (drain limit bytes).refused = none) :
    (drainEnd limit bytes).outcome =
      if (drain limit bytes).rest = [] then .ok () else .error .truncated := by
  have found := scan_eq_incomplete_iff.mpr ((parse_drain limit bytes).2.1.mp none)
  simp only [drainEnd, scanEnd, found]
  by_cases empty : (drain limit bytes).rest = []
  · simp only [if_pos empty]
  · simp only [if_neg empty]

/-- The frames and the rest of a parse tell the end. -/
theorem Parse.refused_eq_none_iff {frames : List Bytes} {rest : Bytes}
    (parse : Parse limit bytes frames rest) :
    (drain limit bytes).refused = none ↔ Unfinished limit rest := by
  rw [parse.eq_drain.2]
  exact (parse_drain limit bytes).2.1

theorem outcome_eq_ok_iff : (drainEnd limit bytes).outcome = .ok () ↔ Whole limit bytes := by
  have parse := (parse_drain limit bytes).1
  constructor
  · intro clean
    cases refused : (drain limit bytes).refused with
    | some size =>
        rw [outcome_of_refused refused] at clean
        cases clean
    | none =>
        rw [outcome_of_none refused] at clean
        split at clean
        case isTrue empty =>
          have whole := parse.whole
          rw [empty, List.append_nil] at whole
          exact ⟨_, whole, parse.admitted⟩
        case isFalse => cases clean
  · rintro ⟨frames, whole, admitted⟩
    have other : Parse limit bytes frames [] :=
      ⟨whole.trans (List.append_nil _).symm, admitted, .inl (unfinished_nil limit)⟩
    rw [outcome_of_none (other.refused_eq_none_iff.mpr (unfinished_nil limit)),
      if_pos other.eq_drain.2.symm]

theorem outcome_eq_oversized_iff {size : Nat} :
    (drainEnd limit bytes).outcome = .error (.oversized size) ↔ Refusing limit size bytes := by
  obtain ⟨parse, -, oversized⟩ := parse_drain limit bytes
  constructor
  · intro stopped
    cases refused : (drain limit bytes).refused with
    | some other =>
        rw [outcome_of_refused refused] at stopped
        cases stopped
        exact ⟨_, _, parse.whole, parse.admitted, (oversized size).mp refused⟩
    | none =>
        rw [outcome_of_none refused] at stopped
        split at stopped <;> cases stopped
  · rintro ⟨frames, rest, whole, admitted, tooLarge⟩
    have other : Parse limit bytes frames rest := ⟨whole, admitted, .inr ⟨size, tooLarge⟩⟩
    exact outcome_of_refused ((oversized size).mpr (other.eq_drain.2 ▸ tooLarge))

/-- There are three ways to end. -/
theorem outcome_cases (limit : Limit) (bytes : Bytes) :
    (drainEnd limit bytes).outcome = .ok () ∨
    (∃ size, (drainEnd limit bytes).outcome = .error (.oversized size)) ∨
    (drainEnd limit bytes).outcome = .error .truncated := by
  cases refused : (drain limit bytes).refused with
  | some size => exact .inr (.inl ⟨size, outcome_of_refused refused⟩)
  | none =>
      rw [outcome_of_none refused]
      by_cases empty : (drain limit bytes).rest = []
      · exact .inl (if_pos empty)
      · exact .inr (.inr (if_neg empty))

theorem outcome_eq_truncated_iff :
    (drainEnd limit bytes).outcome = .error .truncated ↔
      ¬ Whole limit bytes ∧ ∀ size, ¬ Refusing limit size bytes := by
  simp only [← outcome_eq_ok_iff, ← outcome_eq_oversized_iff]
  rcases outcome_cases limit bytes with clean | ⟨size, refused⟩ | truncated
  · simp [clean]
  · simp [refused, Fault.truncated]
  · simp [truncated, Fault.truncated]

/-! ## Cuts -/

theorem length_row_take_le {m n : Nat} (le : m ≤ n) (frames : List Bytes) :
    (row (frames.take m)).length ≤ (row (frames.take n)).length := by
  obtain ⟨more, whole⟩ : frames.take m <+: frames.take n := List.take_prefix_take_left le
  rw [← whole, row_append, List.length_append]
  exact Nat.le_add_right _ _

/-- Of a row of frames some bytes have come: so many whole frames, and then nothing because
there are no more, or not all of the next frame. -/
structure Cut (frames : List Bytes) (front : Bytes) (count : Nat) (begun : Bytes) : Prop where
  whole : front = row (frames.take count) ++ begun
  ends : count = frames.length ∧ begun = [] ∨
    ∃ payload, frames[count]? = some payload ∧ begun <+: ofPayload payload ∧
      begun ≠ ofPayload payload

theorem exists_cut {frames : List Bytes} {front coming : Bytes}
    (whole : front ++ coming = row frames) : ∃ count begun, Cut frames front count begun := by
  induction frames generalizing front with
  | nil =>
      obtain ⟨rfl, -⟩ := List.append_eq_nil_iff.mp whole
      exact ⟨0, [], rfl, .inl ⟨rfl, rfl⟩⟩
  | cons payload frames ih =>
      have comes : front <+: row (payload :: frames) := ⟨coming, whole⟩
      have first : ofPayload payload <+: row (payload :: frames) := List.prefix_append _ _
      rcases Nat.lt_or_ge front.length (ofPayload payload).length with short | long
      · refine ⟨0, front, rfl, .inr ⟨payload, rfl, ?_, ?_⟩⟩
        · exact List.prefix_of_prefix_length_le comes first (Nat.le_of_lt short)
        · rintro rfl
          exact Nat.lt_irrefl _ short
      · obtain ⟨later, rfl⟩ := List.prefix_of_prefix_length_le first comes long
        rw [row_cons, List.append_assoc] at whole
        obtain ⟨count, begun, rfl, ends⟩ := ih (List.append_cancel_left whole)
        exact ⟨count + 1, begun, by simp, by simpa using ends⟩

namespace Cut

variable {frames : List Bytes} {front begun : Bytes} {count : Nat}

theorem count_le (cut : Cut frames front count begun) : count ≤ frames.length := by
  rcases cut.ends with ⟨rfl, -⟩ | ⟨payload, next, -⟩
  · exact Nat.le_refl _
  · exact Nat.le_of_lt (List.getElem?_eq_some_iff.mp next).1

theorem unfinished (cut : Cut frames front count begun)
    (admitted : ∀ payload ∈ frames, Admits limit payload.length) : Unfinished limit begun := by
  rcases cut.ends with ⟨-, rfl⟩ | ⟨payload, next, comes, missing⟩
  · exact unfinished_nil limit
  · exact unfinished_of_begun (admitted payload (List.mem_of_getElem? next)) comes missing

theorem length_eq (cut : Cut frames front count begun) :
    (row (frames.take count)).length + begun.length = front.length := by
  rw [cut.whole, List.length_append]

/-- So many frames are whole, and the next one is not. -/
theorem le_count_iff (cut : Cut frames front count begun) {m : Nat} (le : m ≤ frames.length) :
    m ≤ count ↔ (row (frames.take m)).length ≤ front.length := by
  have length := cut.length_eq
  constructor
  · intro early
    have shorter := length_row_take_le early frames
    omega
  · intro fits
    by_contra late
    rcases cut.ends with ⟨rfl, -⟩ | ⟨payload, next, comes, missing⟩
    · exact late le
    · have longer := length_row_take_le (Nat.lt_of_not_le late) frames
      have shorter : begun.length < (ofPayload payload).length :=
        Nat.lt_of_le_of_ne comes.length_le (mt comes.eq_of_length missing)
      rw [List.take_add_one, next, Option.toList_some, row_append, row_cons, row_nil,
        List.append_nil, List.length_append] at longer
      omega

/-- Nothing of a frame is there just if the cut is between two frames. -/
theorem begun_eq_nil_iff (cut : Cut frames front count begun) :
    begun = [] ↔ ∃ m, front.length = (row (frames.take m)).length := by
  have length := cut.length_eq
  rw [← List.length_eq_zero_iff]
  constructor
  · intro empty
    exact ⟨count, by omega⟩
  · rintro ⟨m, boundary⟩
    have early : min m frames.length ≤ count := by
      refine (cut.le_count_iff (Nat.min_le_right ..)).mpr (Nat.le_of_eq ?_)
      rw [boundary, ← List.take_eq_take_min]
    have shorter := length_row_take_le early frames
    rw [← List.take_eq_take_min] at shorter
    omega

/-- The whole frames are drained, and the rest tells whether a frame was cut. -/
theorem drain_eq (cut : Cut frames front count begun)
    (admitted : ∀ payload ∈ frames, Admits limit payload.length) :
    drain limit front = ⟨frames.take count, begun, none⟩ := by
  have early : ∀ payload ∈ frames.take count, Admits limit payload.length :=
    fun payload member => admitted payload (List.mem_of_mem_take member)
  rw [cut.whole, drain_row early, drain_of_unfinished (cut.unfinished admitted), List.append_nil]

end Cut

/-- Frames are taken off a stream to its end, as draining takes them, and then the calls give the
end just if the stream is whole frames that the limit admits, a size just if a length word above
the limit follows such frames, and otherwise the fault of a stream that is cut. What was not taken
is left. Of admitted frames that are cut somewhere those come that lie before the cut, and the end
is clean just if the cut is where a frame ends. -/
theorem truncation_is_detected (limit : Limit) (bytes : Bytes) :
    let e := drainEnd limit bytes
    (∀ buffer, decodeEnd limit buffer =
      match decode limit buffer with
      | (.ok none, left) =>
          if left = [] then (.ok none, left) else (.error (.io "bytes remaining on stream"), left)
      | call => call) ∧
    endCalls limit (e.frames.length + 1) bytes =
      (e.frames.map (fun payload => .ok (some payload)) ++ [e.last], e.rest) ∧
    e.frames = (drain limit bytes).frames ∧ e.rest = (drain limit bytes).rest ∧
    (e.last = .ok none ↔ Whole limit bytes) ∧
    (∀ size, e.last = .error (.oversized size) ↔ Refusing limit size bytes) ∧
    (e.last = .error (.io "bytes remaining on stream") ↔
      ¬ Whole limit bytes ∧ ∀ size, ¬ Refusing limit size bytes) ∧
    ∀ frames cut, (∀ payload ∈ frames, Admits limit payload.length) → cut ≤ (row frames).length →
      bytes = (row frames).take cut →
      (∃ count ≤ frames.length, e.frames = frames.take count ∧
        ∀ m ≤ frames.length, m ≤ count ↔ (row (frames.take m)).length ≤ cut) ∧
      (e.last = .ok none ↔ ∃ m, cut = (row (frames.take m)).length) ∧
      (e.last ≠ .ok none → e.last = .error (.io "bytes remaining on stream")) := by
  intro e
  simp only [e, ne_eq, DrainedEnd.last_eq_ok_iff, DrainedEnd.last_eq_error_iff]
  refine ⟨decodeEnd_eq limit, endCalls_drainEnd limit bytes, rfl, rfl, outcome_eq_ok_iff,
    fun size => outcome_eq_oversized_iff, outcome_eq_truncated_iff, ?_⟩
  rintro frames cut admitted within rfl
  obtain ⟨count, begun, divided⟩ := exists_cut (List.take_append_drop cut (row frames))
  have length : ((row frames).take cut).length = cut := by
    rw [List.length_take, Nat.min_eq_left within]
  have drained := divided.drain_eq admitted
  have outcome : (drainEnd limit ((row frames).take cut)).outcome =
      if begun = [] then .ok () else .error .truncated := by
    rw [outcome_of_none (by rw [drained]), drained]
  refine ⟨⟨count, divided.count_le, congrArg (·.frames) drained, ?_⟩, ?_, ?_⟩
  · intro m le
    rw [divided.le_count_iff le, length]
  · rw [← length, ← divided.begun_eq_nil_iff, length, outcome]
    split <;> simp_all
  · rw [outcome]
    split
    · exact fun differ => absurd rfl differ
    · exact fun _ => rfl

/-- Three frames, one of them empty, are cut inside the length word of the last one. -/
theorem truncation_is_detected_cut :
    let frames : List Bytes := [[7], [], [1, 2, 3]]
    let bytes := (row frames).take 12
    let e := drainEnd (some 3) bytes
    (∀ payload ∈ frames, Admits (some 3) payload.length) ∧ 12 ≤ (row frames).length ∧
      e.frames = [[7], []] ∧ e.last = .error (.io "bytes remaining on stream") ∧
      (endCalls (some 3) 3 bytes).2 = [0, 0, 0] := by
  intro frames bytes e
  have admitted : ∀ payload ∈ frames, Admits (some 3) payload.length := by decide
  have within : 12 ≤ (row frames).length := by decide
  obtain ⟨-, -, -, -, -, -, -, cuts⟩ := truncation_is_detected (some 3) bytes
  obtain ⟨⟨count, -, same, before⟩, clean, otherwise⟩ := cuts frames 12 admitted within rfl
  have two : 2 ≤ count := (before 2 (by decide)).mpr (by decide)
  have notThree : ¬ 3 ≤ count := fun three => absurd ((before 3 (by decide)).mp three) (by decide)
  have exact : count = 2 := by omega
  refine ⟨admitted, within, by rw [same, exact]; rfl, otherwise fun ends => ?_, by decide +kernel⟩
  obtain ⟨m, boundary⟩ := clean.mp ends
  match m, boundary with
  | m + 3, boundary => simp [frames, length_ofPayload, overhead, Word.width] at boundary

end Frame

end RoundTrip
