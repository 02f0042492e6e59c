import RoundTrip.Proofs.Frame
import Mathlib.Data.List.Induction

/-!
# Feeding in pieces

A buffer is fed piece by piece and drained after every piece. The limit may be another
one each time. As long as the frames that came out are admitted by the limit to come, the
buffer and these frames hold all that was fed (`Drained.Holds`), so the next draining
gives what draining everything at once would have given.

Main result: neither the places where a stream is cut nor a limit that was too low for
some time can be seen in the end (`feeding_in_pieces`).
-/

namespace RoundTrip

namespace Frame

/-- Whatever was admitted is still admitted. -/
def Raises (low high : Limit) : Prop := ∀ size, Admits low size → Admits high size

theorem raises_some {least most : Nat} (le : least ≤ most) : Raises (some least) (some most) := by
  intro size admits
  refine ⟨admits.1, ?_⟩
  rintro _ ⟨⟩
  exact Nat.le_trans (admits.2 least rfl) le

namespace Drained

/-- Put a piece behind what is left, and drain again. -/
def feed (limit : Limit) (piece : Bytes) (d : Drained) : Drained :=
  let next := drain limit (d.rest ++ piece)
  { next with frames := d.frames ++ next.frames }

/-- The frames that came out are admitted, and with what is left they are all that was
fed. -/
structure Holds (limit : Limit) (bytes : Bytes) (d : Drained) : Prop where
  whole : bytes = row d.frames ++ d.rest
  admitted : ∀ payload ∈ d.frames, Admits limit payload.length

variable {limit low : Limit} {bytes : Bytes} {d : Drained}

/-- A piece may be drained under a lower limit, and nothing is lost by it. -/
theorem holds_feed (holds : d.Holds limit bytes) (raises : Raises low limit) (piece : Bytes) :
    (d.feed low piece).Holds limit (bytes ++ piece) := by
  obtain ⟨parse, -⟩ := parse_drain low (d.rest ++ piece)
  constructor
  · calc
      bytes ++ piece = row d.frames ++ (d.rest ++ piece) := by
        rw [holds.whole, List.append_assoc]
      _ = row (d.feed low piece).frames ++ (d.feed low piece).rest := by
        rw [parse.whole, ← List.append_assoc, ← row_append]
        rfl
  · intro payload member
    rcases List.mem_append.mp member with earlier | new
    · exact holds.admitted payload earlier
    · exact raises _ (parse.admitted payload new)

/-- The draining under the limit itself gives what draining at once gives. -/
theorem feed_eq_drain (holds : d.Holds limit bytes) (piece : Bytes) :
    d.feed limit piece = drain limit (bytes ++ piece) := by
  rw [holds.whole, List.append_assoc, drain_row holds.admitted]
  rfl

end Drained

/-- Feed piece after piece into an empty buffer, each with the limit of its draining. -/
def feedAll (feeds : List (Limit × Bytes)) : Drained :=
  feeds.foldl (fun d feed => d.feed feed.1 feed.2) ⟨[], [], none⟩

/-- All that is fed. -/
def fed (feeds : List (Limit × Bytes)) : Bytes := (feeds.map (·.2)).flatten

theorem holds_feedAll {limit : Limit} {feeds : List (Limit × Bytes)}
    (raised : ∀ feed ∈ feeds, Raises feed.1 limit) :
    (feedAll feeds).Holds limit (fed feeds) := by
  -- The pieces fed last come last, so the induction is from the end.
  induction feeds using List.reverseRecOn with
  | nil => exact ⟨rfl, by simp [feedAll]⟩
  | append_singleton feeds feed ih =>
      have earlier := ih fun other member => raised other (List.mem_append_left _ member)
      have last := raised feed (List.mem_append_right _ List.mem_cons_self)
      have bytes : fed (feeds ++ [feed]) = fed feeds ++ feed.2 := by simp [fed]
      rw [bytes, feedAll, List.foldl_append]
      exact Drained.holds_feed earlier last feed.2

/-- A call that gives no frame takes nothing. -/
theorem decode_eq_self {limit : Limit} {buffer : Bytes}
    (none : ∀ payload, (decode limit buffer).1 ≠ .ok (some payload)) :
    (decode limit buffer).2 = buffer := by
  unfold decode at none ⊢
  split
  case h_1 payload rest found =>
    rw [found] at none
    exact absurd rfl (none payload)
  case h_2 | h_3 => rfl

/-- A limit that admits the size which is announced lets the frame through as soon as
all of it is there. -/
theorem decode_of_announces {limit : Limit} {buffer : Bytes} {size : Nat}
    (announces : Announces size buffer) (admits : Admits limit size) :
    decode limit buffer =
      if overhead + size ≤ buffer.length then
        (.ok (some ((buffer.drop overhead).take size)), buffer.drop (overhead + size))
      else (.ok none, buffer) := by
  split
  case isTrue complete =>
    obtain ⟨tail, whole⟩ := announces.2
    have same : buffer.drop overhead = tail := by rw [← whole]; rfl
    have length : (tail.take size).length = size := by
      rw [← whole, List.length_append, Word.length_bigEndian] at complete
      rw [List.length_take]
      exact Nat.min_eq_left (Nat.le_of_add_le_add_left complete)
    have found : scan limit buffer = .frame (tail.take size) (tail.drop size) := by
      rw [scan_eq_frame_iff, ofPayload, length, List.append_assoc, List.take_append_drop, whole]
      exact ⟨rfl, admits⟩
    rw [decode, found, ← List.drop_drop, same]
  case isFalse missing =>
    have unfinished : Unfinished limit buffer :=
      .inr ⟨size, announces, admits, Nat.lt_of_not_le missing⟩
    rw [decode, scan_eq_incomplete_iff.mpr unfinished]

/-- However a stream is cut into pieces, and whatever lower limits there were before,
draining after every piece gives in all what draining the stream at once gives under the
last limit: the frames, the bytes left and the size that is refused. A call that gives no
frame leaves the buffer as it is; and once the limit admits the frame that was refused,
this frame comes next, as soon as all of it is there. -/
theorem feeding_in_pieces {feeds : List (Limit × Bytes)} {limit : Limit}
    (raised : ∀ feed ∈ feeds, Raises feed.1 limit) (piece : Bytes) :
    let d := feedAll (feeds ++ [(limit, piece)])
    d = drain limit (fed feeds ++ piece) ∧
    (∀ limit buffer, (∀ payload, (decode limit buffer).1 ≠ .ok (some payload)) →
      (decode limit buffer).2 = buffer) ∧
    ∀ size higher more, d.refused = some size → Admits higher size →
      let buffer := d.rest ++ more
      decode higher buffer =
        if overhead + size ≤ buffer.length then
          (.ok (some ((buffer.drop overhead).take size)), buffer.drop (overhead + size))
        else (.ok none, buffer) := by
  intro d
  have atOnce : d = drain limit (fed feeds ++ piece) := by
    rw [← Drained.feed_eq_drain (holds_feedAll raised)]
    exact List.foldl_append
  refine ⟨atOnce, fun _ _ none => decode_eq_self none, ?_⟩
  intro size higher more refused admits
  rw [atOnce] at refused
  have oversized := ((parse_drain limit (fed feeds ++ piece)).2.2 size).mp refused
  rw [← atOnce] at oversized
  exact decode_of_announces (oversized.1.append more) admits

/-- A stream is cut inside both its length words; the second frame is refused under the
first limit, and comes out under the second one. -/
theorem feeding_in_pieces_cut :
    let feeds : List (Limit × Bytes) :=
      [(some 2, [0, 0, 0]), (some 2, [1, 9, 0, 0]), (some 2, []), (some 2, [0, 3, 7])]
    (∀ feed ∈ feeds, Raises feed.1 (some 3)) ∧ (feedAll feeds).refused = some 3 ∧
      feedAll (feeds ++ [(some 3, [7, 7, 0])]) = ⟨[[9], [7, 7, 7]], [0], none⟩ := by
  intro feeds
  have raised : ∀ feed ∈ feeds, Raises feed.1 (some 3) := by
    simp only [feeds, List.forall_mem_cons, List.not_mem_nil, false_implies, implies_true, and_true]
    exact ⟨raises_some (by decide), raises_some (by decide), raises_some (by decide),
      raises_some (by decide)⟩
  refine ⟨raised, by decide +kernel, ?_⟩
  rw [(feeding_in_pieces raised [7, 7, 0]).1]
  decide +kernel

end Frame

end RoundTrip
