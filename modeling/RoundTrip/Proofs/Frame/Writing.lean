import RoundTrip.Proofs.Frame.Feeding

/-!
# Writing into a buffer

Payloads are written one after the other into one buffer. A payload that the limit does not
admit is refused and leaves nothing there, so the buffer holds the row of the others
(`putAll_eq`). A frame that was begun behind them is unfinished (`unfinished_of_begun`).

Main result: a reader with the same or a higher limit takes off the buffer what was accepted,
and nothing else (`accepted_payloads_arrive`).
-/

namespace RoundTrip

namespace Frame

instance (limit : Limit) (size : Nat) : Decidable (Admits limit size) :=
  decidable_of_iff _ admits_iff.symm

/-- Payloads are put into a buffer one after the other: what each call gives, and the buffer
that they leave. -/
def putAll (limit : Limit) : List Bytes → Bytes → List (Except Fault Unit) × Bytes
  | [], buffer => ([], buffer)
  | payload :: payloads, buffer =>
      let (result, next) := put limit payload buffer
      let (results, last) := putAll limit payloads next
      (result :: results, last)

/-- The payloads that are not refused. -/
def accepted (limit : Limit) (payloads : List Bytes) : List Bytes :=
  payloads.filter (Admits limit ·.length)

variable {limit higher : Limit}

/-! ## What is written -/

theorem put_of_admits {payload : Bytes} (admits : Admits limit payload.length) (buffer : Bytes) :
    put limit payload buffer = (.ok (), buffer ++ ofPayload payload) := by
  rw [put, encode_eq, if_pos (admits_iff.mp admits)]

theorem put_of_not_admits {payload : Bytes} (refused : ¬ Admits limit payload.length)
    (buffer : Bytes) : put limit payload buffer = (.error (.oversized payload.length), buffer) := by
  rw [put, encode_eq, if_neg (mt admits_iff.mpr refused)]

theorem put_eq_error_iff {payload buffer : Bytes} :
    put limit payload buffer = (.error (.oversized payload.length), buffer) ↔
      (∃ most, limit = some most ∧ most < payload.length) ∨ largest < payload.length := by
  have above : ¬ Admits limit payload.length ↔
      (∃ most, limit = some most ∧ most < payload.length) ∨ largest < payload.length := by
    cases limit <;> simp [Admits, largest, Word.bound] <;> omega
  rw [← above]
  constructor
  · intro refused admits
    rw [put_of_admits admits] at refused
    cases refused
  · exact fun refused => put_of_not_admits refused buffer

theorem put_eq_ok_iff {payload buffer : Bytes} :
    put limit payload buffer = (.ok (), buffer ++ ofPayload payload) ↔
      Admits limit payload.length := by
  constructor
  · intro done
    by_contra refused
    rw [put_of_not_admits refused] at done
    cases done
  · exact fun admits => put_of_admits admits buffer

/-- Each call gives what it would give alone, and what was accepted is in the buffer. -/
theorem putAll_eq (limit : Limit) (payloads : List Bytes) (buffer : Bytes) :
    putAll limit payloads buffer =
      (payloads.map fun payload => (put limit payload []).1,
        buffer ++ row (accepted limit payloads)) := by
  induction payloads generalizing buffer with
  | nil => simp [putAll, accepted]
  | cons payload payloads ih =>
      by_cases admits : Admits limit payload.length
      · simp [putAll, put_of_admits admits, ih, accepted, admits]
      · simp [putAll, put_of_not_admits admits, ih, accepted, admits]

/-! ## What is read -/

/-- Not all of an admitted frame is there. -/
theorem unfinished_of_begun {payload begun : Bytes} (admits : Admits limit payload.length)
    (front : begun <+: ofPayload payload) (missing : begun ≠ ofPayload payload) :
    Unfinished limit begun := by
  have shorter : begun.length < overhead + payload.length := by
    rw [← length_ofPayload]
    exact Nat.lt_of_le_of_ne front.length_le (mt front.eq_of_length missing)
  rcases Nat.lt_or_ge begun.length overhead with short | long
  · exact .inl short
  · have word : Word.bigEndian payload.length <+: ofPayload payload := List.prefix_append _ _
    exact .inr ⟨payload.length, ⟨admits.1, List.prefix_of_prefix_length_le word front long⟩, admits,
      shorter⟩

/-- A reader takes off admitted frames and finds nothing more behind them. -/
theorem calls_row {frames : List Bytes} (admitted : ∀ payload ∈ frames, Admits limit payload.length)
    {rest : Bytes} (unfinished : Unfinished limit rest) :
    calls limit (frames.length + 1) (row frames ++ rest) =
      (frames.map (fun payload => .ok (some payload)) ++ [.ok none], rest) := by
  have drained : drain limit (row frames ++ rest) = ⟨frames, rest, none⟩ := by
    rw [drain_row admitted, drain_of_unfinished unfinished, List.append_nil]
  have called := calls_drain limit (row frames ++ rest)
  rw [drained] at called
  exact called

/-- A payload is refused, and the buffer stays as it is, just if it is longer than the limit or
than a word can say; any other payload is put behind the buffer. A reader whose limit admits as
much gets from the buffer the payloads that were accepted, each as it was and in their order, and
then finds the buffer empty. If a further frame has been begun behind them, the reader gets the
same, and what was begun is left. -/
theorem accepted_payloads_arrive (raises : Raises limit higher) (payloads : List Bytes) :
    let (results, buffer) := putAll limit payloads []
    let frames := accepted limit payloads
    let arrived := frames.map (fun payload => .ok (some payload)) ++ [.ok none]
    (∀ payload buffer,
      (put limit payload buffer = (.error (.oversized payload.length), buffer) ↔
        (∃ most, limit = some most ∧ most < payload.length) ∨ 4294967295 < payload.length) ∧
      (put limit payload buffer = (.ok (), buffer ++ ofPayload payload) ↔
        Admits limit payload.length)) ∧
    results = payloads.map (fun payload => (put limit payload []).1) ∧
    calls higher (frames.length + 1) buffer = (arrived, []) ∧
    ∀ payload begun, Admits higher payload.length →
      begun <+: ofPayload payload → begun ≠ ofPayload payload →
      calls higher (frames.length + 1) (buffer ++ begun) = (arrived, begun) := by
  have admitted : ∀ payload ∈ accepted limit payloads, Admits higher payload.length := by
    intro payload member
    exact raises _ (of_decide_eq_true (List.mem_filter.mp member).2)
  rw [putAll_eq, List.nil_append]
  refine ⟨fun payload buffer => ⟨put_eq_error_iff, put_eq_ok_iff⟩, rfl, ?_, ?_⟩
  · simpa using calls_row admitted (unfinished_nil higher)
  · intro payload begun admits front missing
    exact calls_row admitted (unfinished_of_begun admits front missing)

/-- Two of five payloads are too long for the writer, and the reader admits more. -/
theorem accepted_payloads_arrive_refused :
    let payloads : List Bytes := [[7], [1, 2, 3], [], [4, 5, 6, 7], [8, 9]]
    let buffer := (putAll (some 2) payloads []).2
    let begun : Bytes := [0, 0, 0, 3, 1, 2]
    Raises (some 2) (some 3) ∧ Admits (some 3) 3 ∧ begun <+: ofPayload [1, 2, 3] ∧
      calls (some 3) 4 (buffer ++ begun) =
        ([.ok (some [7]), .ok (some []), .ok (some [8, 9]), .ok none], begun) := by
  intro payloads buffer begun
  have raises : Raises (some 2) (some 3) := raises_some (by decide)
  have admits : Admits (some 3) ([1, 2, 3] : Bytes).length := by decide
  have front : begun <+: ofPayload [1, 2, 3] := ⟨[3], rfl⟩
  refine ⟨raises, admits, front, ?_⟩
  exact (accepted_payloads_arrive raises payloads).2.2.2 [1, 2, 3] begun admits front (by decide)

end Frame

end RoundTrip
