import RoundTrip.Frame

/-!
# What a buffer of frames holds

A buffer is a row of frames that the limit admits, and behind them bytes with which no
such frame begins, or not all of it. `Parse` says this with the written form of a frame
alone; what is behind the frames is `Unfinished` when more bytes can make a frame of it,
and `Oversized` when the limit forbids it. These are what `scan` finds
(`scan_eq_frame_iff`, `scan_eq_incomplete_iff`, `scan_eq_oversized_iff`).

Main result: calls of a decoder, repeated until one of them gives no frame, give the
only parse of the buffer, and the last of them says how it ends
(`decoding_is_unique_parse`).
-/

namespace RoundTrip

namespace Frame

/-! ## What stands in a buffer -/

/-- A word can hold the size of the payload, and the limit does not forbid it. -/
def Admits (limit : Limit) (size : Nat) : Prop :=
  size < Word.bound ∧ ∀ most, limit = some most → size ≤ most

/-- The buffer begins with the length word of a payload of this size. -/
def Announces (size : Nat) (buffer : Bytes) : Prop :=
  size < Word.bound ∧ Word.bigEndian size <+: buffer

/-- There is no length word yet, or bytes of an admitted payload are missing. -/
def Unfinished (limit : Limit) (buffer : Bytes) : Prop :=
  buffer.length < overhead ∨
    ∃ size, Announces size buffer ∧ Admits limit size ∧ buffer.length < overhead + size

/-- The length word in front is above the limit. -/
def Oversized (limit : Limit) (size : Nat) (buffer : Bytes) : Prop :=
  Announces size buffer ∧ ¬ Admits limit size

/-- The frames one after the other. -/
def row (frames : List Bytes) : Bytes := (frames.map ofPayload).flatten

/-- The bytes are these frames, all of them admitted, and a rest that holds no more. -/
structure Parse (limit : Limit) (bytes : Bytes) (frames : List Bytes) (rest : Bytes) : Prop where
  whole : bytes = row frames ++ rest
  admitted : ∀ payload ∈ frames, Admits limit payload.length
  ends : Unfinished limit rest ∨ ∃ size, Oversized limit size rest

@[simp] theorem row_nil : row [] = [] := rfl

@[simp] theorem row_cons (payload : Bytes) (frames : List Bytes) :
    row (payload :: frames) = ofPayload payload ++ row frames := rfl

@[simp] theorem row_append (first second : List Bytes) :
    row (first ++ second) = row first ++ row second := by
  simp [row]

theorem length_row (frames : List Bytes) : overhead * frames.length ≤ (row frames).length := by
  induction frames with
  | nil => exact Nat.zero_le _
  | cons payload frames ih =>
      rw [row_cons, List.length_append, length_ofPayload, List.length_cons, Nat.mul_succ]
      omega

theorem admits_iff {limit : Limit} {size : Nat} : Admits limit size ↔ size ≤ capacity limit := by
  cases limit with
  | none => simp only [Admits, capacity, largest, Word.bound]; simp; omega
  | some most => simp only [Admits, capacity, largest, Word.bound]; simp; omega

theorem announces_cons {size : Nat} {a b c d : UInt8} {rest : Bytes} :
    Announces size (a :: b :: c :: d :: rest) ↔ size = Word.ofBigEndian a b c d := by
  constructor
  · rintro ⟨small, same⟩
    simp only [Word.bigEndian, List.cons_prefix_cons, List.nil_prefix, and_true] at same
    obtain ⟨rfl, rfl, rfl, rfl⟩ := same
    exact (Word.ofBigEndian_bigEndian small).symm
  · rintro rfl
    refine ⟨Word.ofBigEndian_lt a b c d, rest, ?_⟩
    rw [Word.bigEndian_ofBigEndian]
    rfl

theorem Announces.overhead_le {size : Nat} {buffer : Bytes} (announces : Announces size buffer) :
    overhead ≤ buffer.length :=
  announces.2.length_le

/-- What is announced stays so, whatever follows. -/
theorem Announces.append {size : Nat} {buffer : Bytes} (announces : Announces size buffer)
    (more : Bytes) : Announces size (buffer ++ more) :=
  ⟨announces.1, announces.2.trans (List.prefix_append buffer more)⟩

theorem announces_ofPayload {payload : Bytes} (small : payload.length < Word.bound) (rest : Bytes) :
    Announces payload.length (ofPayload payload ++ rest) :=
  ⟨small, payload ++ rest, by rw [ofPayload, List.append_assoc]⟩

/-- A buffer announces one size at most. -/
theorem Announces.unique {size other : Nat} {buffer : Bytes} (first : Announces size buffer)
    (second : Announces other buffer) : size = other := by
  match buffer, first.overhead_le with
  | a :: b :: c :: d :: rest, _ =>
      rw [announces_cons] at first second
      exact first.trans second.symm

theorem Oversized.append {limit : Limit} {size : Nat} {buffer : Bytes}
    (oversized : Oversized limit size buffer) (more : Bytes) :
    Oversized limit size (buffer ++ more) :=
  ⟨oversized.1.append more, oversized.2⟩

theorem unfinished_nil (limit : Limit) : Unfinished limit [] := .inl (by decide)

/-! ## What a scan finds -/

theorem scan_cons (limit : Limit) (a b c d : UInt8) (rest : Bytes) :
    scan limit (a :: b :: c :: d :: rest) =
      if capacity limit < Word.ofBigEndian a b c d then .oversized (Word.ofBigEndian a b c d)
      else if rest.length < Word.ofBigEndian a b c d then .incomplete
      else .frame (rest.take (Word.ofBigEndian a b c d)) (rest.drop (Word.ofBigEndian a b c d)) := by
  simp only [scan, forbids_iff limit (Word.ofBigEndian_lt a b c d)]

theorem scan_eq_frame_iff {limit : Limit} {buffer payload rest : Bytes} :
    scan limit buffer = .frame payload rest ↔
      buffer = ofPayload payload ++ rest ∧ Admits limit payload.length := by
  rw [admits_iff]
  constructor
  · exact eq_ofPayload_of_scan
  · rintro ⟨rfl, fits⟩
    exact scan_ofPayload fits rest

theorem scan_eq_incomplete_iff {limit : Limit} {buffer : Bytes} :
    scan limit buffer = .incomplete ↔ Unfinished limit buffer := by
  match buffer with
  | [] | [_] | [_, _] | [_, _, _] => simp [scan, Unfinished, overhead, Word.width]
  | a :: b :: c :: d :: rest =>
      simp only [scan_cons, Unfinished, announces_cons, exists_eq_left, admits_iff,
        List.length_cons, overhead, Word.width]
      split
      · simp; omega
      · split <;> simp <;> omega

theorem scan_eq_oversized_iff {limit : Limit} {buffer : Bytes} {size : Nat} :
    scan limit buffer = .oversized size ↔ Oversized limit size buffer := by
  match buffer with
  | [] | [_] | [_, _] | [_, _, _] =>
      simp only [scan, reduceCtorEq, false_iff]
      intro oversized
      exact absurd oversized.1.overhead_le (by simp [overhead, Word.width])
  | a :: b :: c :: d :: rest =>
      simp only [scan_cons, Oversized, announces_cons, admits_iff]
      split
      · simp only [Scan.oversized.injEq]
        constructor
        · rintro rfl
          exact ⟨rfl, by omega⟩
        · rintro ⟨rfl, -⟩
          rfl
      · split <;> simp <;> omega

/-- No buffer ends in two ways. -/
theorem Unfinished.not_oversized {limit : Limit} {buffer : Bytes}
    (unfinished : Unfinished limit buffer) (size : Nat) : ¬ Oversized limit size buffer := by
  intro oversized
  rw [← scan_eq_incomplete_iff] at unfinished
  rw [← scan_eq_oversized_iff, unfinished] at oversized
  cases oversized

/-- Of a stream of admitted frames some bytes have come and the others are on their way.
Either the first frame is there, or bytes of it are missing. -/
theorem scan_of_row {limit : Limit} {frames : List Bytes}
    (admitted : ∀ payload ∈ frames, Admits limit payload.length) {buffer coming : Bytes}
    (whole : buffer ++ coming = row frames) :
    scan limit buffer = .incomplete ∨
      ∃ payload later rest, frames = payload :: later ∧
        scan limit buffer = .frame payload rest ∧ rest ++ coming = row later := by
  have first : ∀ payload rest, scan limit (row frames) = .frame payload rest →
      ∃ later, frames = payload :: later ∧ rest = row later := by
    intro payload rest found
    cases frames with
    | nil => cases found
    | cons other later =>
        rw [row_cons, scan_ofPayload (admits_iff.mp (admitted other List.mem_cons_self))] at found
        cases found
        exact ⟨later, rfl, rfl⟩
  cases found : scan limit buffer with
  | incomplete => exact .inl rfl
  | frame payload rest =>
      obtain ⟨rfl, admits⟩ := scan_eq_frame_iff.mp found
      have again : scan limit (row frames) = .frame payload (rest ++ coming) := by
        rw [scan_eq_frame_iff, ← whole, List.append_assoc]
        exact ⟨rfl, admits⟩
      obtain ⟨later, cut, same⟩ := first _ _ again
      exact .inr ⟨payload, later, rest, cut, rfl, same⟩
  | oversized size =>
      -- What is announced in the buffer is the size of the first frame, which is admitted.
      have oversized := (scan_eq_oversized_iff.mp found).append coming
      rw [whole] at oversized
      cases frames with
      | nil => exact absurd oversized.1.overhead_le (by simp [overhead, Word.width])
      | cons payload later =>
          have admits := admitted payload List.mem_cons_self
          have same := oversized.1.unique (announces_ofPayload admits.1 (row later))
          exact absurd admits (same ▸ oversized.2)

/-! ## Draining -/

theorem drain_of_unfinished {limit : Limit} {buffer : Bytes}
    (unfinished : Unfinished limit buffer) : drain limit buffer = ⟨[], buffer, none⟩ :=
  drain_of_incomplete (scan_eq_incomplete_iff.mpr unfinished)

/-- Admitted frames are taken off one after the other, whatever follows them. -/
theorem drain_row {limit : Limit} {frames : List Bytes}
    (admitted : ∀ payload ∈ frames, Admits limit payload.length) (rest : Bytes) :
    drain limit (row frames ++ rest) =
      { drain limit rest with frames := frames ++ (drain limit rest).frames } := by
  induction frames with
  | nil => rfl
  | cons payload frames ih =>
      have fits := admits_iff.mp (admitted payload List.mem_cons_self)
      have tail := ih fun other member => admitted other (List.mem_cons_of_mem payload member)
      rw [row_cons, List.append_assoc, drain_of_frame (scan_ofPayload fits _), tail]
      rfl

/-- What is drained is a parse, and says how the rest ends. -/
theorem parse_drain (limit : Limit) (bytes : Bytes) :
    Parse limit bytes (drain limit bytes).frames (drain limit bytes).rest ∧
      ((drain limit bytes).refused = none ↔ Unfinished limit (drain limit bytes).rest) ∧
      ∀ size, (drain limit bytes).refused = some size ↔
        Oversized limit size (drain limit bytes).rest := by
  -- The induction is that of the draining: each frame leaves a shorter buffer.
  fun_induction drain limit bytes with
  | case1 buffer payload rest found tail ih =>
      obtain ⟨parse, ends⟩ := ih
      obtain ⟨rfl, admitted⟩ := scan_eq_frame_iff.mp found
      refine ⟨⟨?_, ?_, parse.ends⟩, ends⟩
      · rw [row_cons, List.append_assoc, ← parse.whole]
      · intro other member
        rcases List.mem_cons.mp member with rfl | later
        · exact admitted
        · exact parse.admitted other later
  | case2 buffer found =>
      have unfinished := scan_eq_incomplete_iff.mp found
      refine ⟨⟨rfl, by simp, .inl unfinished⟩, by simpa using unfinished, ?_⟩
      intro size
      simpa using unfinished.not_oversized size
  | case3 buffer size found =>
      have oversized := scan_eq_oversized_iff.mp found
      refine ⟨⟨rfl, by simp, .inr ⟨size, oversized⟩⟩, ?_, ?_⟩
      · simpa using fun unfinished : Unfinished limit buffer =>
          unfinished.not_oversized size oversized
      · intro other
        simp only [Option.some.injEq]
        constructor
        · rintro rfl
          exact oversized
        · intro also
          exact oversized.1.unique also.1

/-- There is no other parse. -/
theorem Parse.eq_drain {limit : Limit} {bytes rest : Bytes} {frames : List Bytes}
    (parse : Parse limit bytes frames rest) :
    frames = (drain limit bytes).frames ∧ rest = (drain limit bytes).rest := by
  have drained : (drain limit rest).frames = [] ∧ (drain limit rest).rest = rest := by
    rcases parse.ends with unfinished | ⟨size, oversized⟩
    · rw [drain_of_unfinished unfinished]
      exact ⟨rfl, rfl⟩
    · rw [drain_of_oversized (scan_eq_oversized_iff.mpr oversized)]
      exact ⟨rfl, rfl⟩
  rw [parse.whole, drain_row parse.admitted, drained.1, drained.2, List.append_nil]
  exact ⟨rfl, rfl⟩

/-! ## Calls of a decoder -/

/-- What each of so many calls gives, and the buffer that they leave. -/
def calls (limit : Limit) : Nat → Bytes → List (Except Fault (Option Bytes)) × Bytes
  | 0, buffer => ([], buffer)
  | more + 1, buffer =>
      let (result, left) := decode limit buffer
      let (results, rest) := calls limit more left
      (result :: results, rest)

/-- What the call gives that ends a draining. -/
def Drained.last (d : Drained) : Except Fault (Option Bytes) :=
  match d.refused with
  | none => .ok none
  | some size => .error (.oversized size)

/-- To drain is to call until no frame is given. -/
theorem calls_drain (limit : Limit) (bytes : Bytes) :
    calls limit ((drain limit bytes).frames.length + 1) bytes =
      ((drain limit bytes).frames.map (fun payload => .ok (some payload)) ++
        [(drain limit bytes).last], (drain limit bytes).rest) := by
  fun_induction drain limit bytes with
  | case1 buffer payload rest found tail ih =>
      rw [List.length_cons, calls, decode, found]
      simp only [tail] at ih ⊢
      rw [ih]
      rfl
  | case2 buffer found => simp [calls, decode, found, Drained.last]
  | case3 buffer size found => simp [calls, decode, found, Drained.last]

/-- A decoder that is called until it gives no frame gives at most one for every four
bytes. These frames, all admitted, and the bytes left make up the buffer, and no other
frames and bytes do. The last call finds nothing just if what is left is unfinished, and
a frame too large just if a length word above the limit is in front of it. -/
theorem decoding_is_unique_parse (limit : Limit) (bytes : Bytes) :
    let d := drain limit bytes
    calls limit (d.frames.length + 1) bytes =
      (d.frames.map (fun payload => .ok (some payload)) ++ [d.last], d.rest) ∧
    d.frames.length ≤ bytes.length / 4 ∧
    bytes = row d.frames ++ d.rest ∧
    (∀ payload ∈ d.frames, Admits limit payload.length) ∧
    (d.last = .ok none ∨ ∃ size, d.last = .error (.oversized size)) ∧
    (d.last = .ok none ↔ Unfinished limit d.rest) ∧
    (∀ size, d.last = .error (.oversized size) ↔ Oversized limit size d.rest) ∧
    ∀ frames rest, Parse limit bytes frames rest → frames = d.frames ∧ rest = d.rest := by
  intro d
  obtain ⟨parse, unfinished, oversized⟩ := parse_drain limit bytes
  refine ⟨calls_drain limit bytes, ?_, parse.whole, parse.admitted, ?_, ?_, ?_, ?_⟩
  · have enough := length_row d.frames
    have length : bytes.length = (row d.frames).length + d.rest.length :=
      (congrArg List.length parse.whole).trans List.length_append
    simp only [overhead, Word.width] at enough
    omega
  · rw [Drained.last]
    cases d.refused with
    | none => exact .inl rfl
    | some size => exact .inr ⟨size, rfl⟩
  · rw [← unfinished, Drained.last]
    cases d.refused <;> simp
  · intro size
    rw [← oversized, Drained.last]
    cases d.refused <;> simp
  · exact fun frames rest other => other.eq_drain

end Frame

end RoundTrip
