import Mathlib.Algebra.Order.BigOperators.Group.List
import Mathlib.Algebra.Order.Field.Rat
import Mathlib.Data.Nat.Cast.Order.Field
import Mathlib.Tactic.Positivity
import Mathlib.Tactic.Ring
import RoundTrip.Tally

/-!
# What a tally adds up to

A tally is told of things one by one (`Stroke`), and each of them adds to its counters
(`read_record`). So a counter is a sum modulo 2⁶⁴, in which the order does not matter
(`read_ofStrokes`). The mean is a quotient of two counters, rounded down twice: a microsecond is
the unit of each round trip, and of the quotient.

Main result: counters are sums, and the mean is less than two microseconds short of the exact
average (`recording_adds_up`).
-/

namespace RoundTrip.Tally

/-! ## Recording -/

/-- What a tally is told. -/
inductive Stroke
  | requestSent (size : Nat)
  | replySent (size : Nat)
  | frameReceived (size : Nat)
  | replyMatched (nanos : Nat)
  | timedOut
  | failedOnClose (count : Nat)
  | violation
  | framingError
deriving DecidableEq, Repr

def record (t : Tally) : Stroke → Tally
  | .requestSent size => t.requestSent size
  | .replySent size => t.replySent size
  | .frameReceived size => t.frameReceived size
  | .replyMatched nanos => t.replyMatched nanos
  | .timedOut => t.timedOut
  | .failedOnClose count => t.failedOnClose count
  | .violation => t.violation
  | .framingError => t.framingError

/-- A new tally that has recorded these. -/
def ofStrokes (strokes : List Stroke) : Tally := strokes.foldl record {}

inductive Counter
  | requestsSent
  | repliesReceived
  | repliesSent
  | timeouts
  | closedFailures
  | violations
  | framingErrors
  | bytesSent
  | bytesReceived
  | roundTripMicros
deriving DecidableEq, Repr

def read (t : Tally) : Counter → UInt64
  | .requestsSent => t.requestsSent
  | .repliesReceived => t.repliesReceived
  | .repliesSent => t.repliesSent
  | .timeouts => t.timeouts
  | .closedFailures => t.closedFailures
  | .violations => t.violations
  | .framingErrors => t.framingErrors
  | .bytesSent => t.bytesSent
  | .bytesReceived => t.bytesReceived
  | .roundTripMicros => t.roundTripMicros

/-- What one stroke adds to a counter. A round trip counts in whole microseconds, as many as a
counter holds. -/
def Stroke.adds : Stroke → Counter → Nat
  | requestSent _, .requestsSent => 1
  | requestSent size, .bytesSent => size
  | replySent _, .repliesSent => 1
  | replySent size, .bytesSent => size
  | frameReceived size, .bytesReceived => size
  | replyMatched _, .repliesReceived => 1
  | replyMatched nanos, .roundTripMicros => min (nanos / 1000) (UInt64.size - 1)
  | timedOut, .timeouts => 1
  | failedOnClose count, .closedFailures => count
  | violation, .violations => 1
  | framingError, .framingErrors => 1
  | _, _ => 0

theorem read_record (t : Tally) (stroke : Stroke) (counter : Counter) :
    (t.record stroke).read counter = t.read counter + .ofNat (stroke.adds counter) := by
  cases stroke <;> cases counter <;> first | rfl | exact (UInt64.add_zero _).symm

theorem read_foldl_record (strokes : List Stroke) (t : Tally) (counter : Counter) :
    (strokes.foldl record t).read counter =
      t.read counter + .ofNat (strokes.map (·.adds counter)).sum := by
  induction strokes generalizing t with
  | nil => exact (UInt64.add_zero _).symm
  | cons stroke strokes ih =>
      rw [List.foldl_cons, ih, read_record, List.map_cons, List.sum_cons, UInt64.ofNat_add,
        UInt64.add_assoc]

theorem read_ofStrokes (strokes : List Stroke) (counter : Counter) :
    (ofStrokes strokes).read counter = .ofNat (strokes.map (·.adds counter)).sum := by
  have nothing : ({} : Tally).read counter = 0 := by cases counter <;> rfl
  rw [ofStrokes, read_foldl_record, nothing, UInt64.zero_add]

/-- A tally is what its counters show. -/
theorem eq_of_read {t u : Tally} (same : ∀ counter, t.read counter = u.read counter) : t = u := by
  cases t
  cases u
  simp only [mk.injEq]
  exact ⟨same .requestsSent, same .repliesReceived, same .repliesSent, same .timeouts,
    same .closedFailures, same .violations, same .framingErrors, same .bytesSent,
    same .bytesReceived, same .roundTripMicros⟩

theorem ofStrokes_perm {strokes others : List Stroke} (perm : strokes.Perm others) :
    ofStrokes strokes = ofStrokes others := by
  refine eq_of_read fun counter => ?_
  rw [read_ofStrokes, read_ofStrokes, (perm.map _).sum_eq]

/-! ## Round trips -/

def Stroke.nanos? : Stroke → Option Nat
  | replyMatched nanos => some nanos
  | _ => none

/-- The round trips that are recorded. -/
def roundTrips (strokes : List Stroke) : List Nat := strokes.filterMap (·.nanos?)

/-- A counter to which nothing but round trips adds. -/
theorem sum_adds_eq {counter : Counter} {share : Nat → Nat}
    (own : ∀ stroke, Stroke.adds stroke counter = (stroke.nanos?.map share).getD 0)
    (strokes : List Stroke) :
    (strokes.map (·.adds counter)).sum = ((roundTrips strokes).map share).sum := by
  induction strokes with
  | nil => rfl
  | cons stroke strokes ih =>
      rw [List.map_cons, List.sum_cons, ih, own]
      cases nanos : stroke.nanos? <;> simp [roundTrips, nanos]

theorem sum_repliesReceived (strokes : List Stroke) :
    (strokes.map (·.adds .repliesReceived)).sum = (roundTrips strokes).length := by
  have one : ∀ stroke, Stroke.adds stroke .repliesReceived =
      (stroke.nanos?.map fun _ => 1).getD 0 := by
    intro stroke
    cases stroke <;> rfl
  simp [sum_adds_eq one]

theorem sum_roundTripMicros (strokes : List Stroke) :
    (strokes.map (·.adds .roundTripMicros)).sum =
      ((roundTrips strokes).map fun nanos => min (nanos / 1000) (UInt64.size - 1)).sum := by
  refine sum_adds_eq (fun stroke => ?_) strokes
  cases stroke <;> rfl

theorem repliesReceived_ofStrokes (strokes : List Stroke) :
    (ofStrokes strokes).repliesReceived = .ofNat (roundTrips strokes).length := by
  rw [← sum_repliesReceived]
  exact read_ofStrokes strokes .repliesReceived

/-- Round trips that a counter can hold together count in full. -/
theorem sum_roundTripMicros_of_lt {strokes : List Stroke}
    (small : ((roundTrips strokes).map (· / 1000)).sum < 2 ^ 64) :
    (strokes.map (·.adds .roundTripMicros)).sum = ((roundTrips strokes).map (· / 1000)).sum := by
  rw [sum_roundTripMicros]
  refine congrArg List.sum (List.map_congr_left fun nanos member => Nat.min_eq_left ?_)
  have part := List.le_sum_of_mem (List.mem_map_of_mem (f := (· / 1000)) member)
  exact Nat.le_sub_one_of_lt (Nat.lt_of_le_of_lt part small)

/-! ## The mean -/

/-- A quotient, if there is one. -/
def divide? (total count : UInt64) : Option UInt64 :=
  if count = 0 then none else some (total / count)

/-- All quotients that the mean takes are there. -/
theorem meanBy_divide? (t : Tally) : t.meanBy divide? = some t.mean? := by
  rw [mean?_eq, meanBy]
  split
  case isTrue => rfl
  case isFalse counted => simp [divide?, counted]

theorem mean?_eq_none_iff (strokes : List Stroke) :
    (ofStrokes strokes).mean? = none ↔ (roundTrips strokes).length % 2 ^ 64 = 0 := by
  have wrapped : (ofStrokes strokes).repliesReceived = 0 ↔
      (roundTrips strokes).length % 2 ^ 64 = 0 := by
    rw [repliesReceived_ofStrokes, ← UInt64.toNat_inj, UInt64.toNat_ofNat']
    rfl
  rw [mean?_eq, ← wrapped]
  split <;> simp_all

theorem toNat_mean {strokes : List Stroke} {mean : UInt64}
    (found : (ofStrokes strokes).mean? = some mean) :
    mean.toNat = (strokes.map (·.adds .roundTripMicros)).sum % 2 ^ 64 /
      ((roundTrips strokes).length % 2 ^ 64) := by
  have total : (ofStrokes strokes).roundTripMicros =
      .ofNat (strokes.map (·.adds .roundTripMicros)).sum :=
    read_ofStrokes strokes .roundTripMicros
  rw [mean?_eq] at found
  split at found
  case isTrue => cases found
  case isFalse =>
    cases found
    rw [UInt64.toNat_div, total, repliesReceived_ofStrokes, UInt64.toNat_ofNat',
      UInt64.toNat_ofNat']

/-- Where the round trips and their number count in full, the mean is the sum of their whole
microseconds, divided by the number. -/
theorem exists_mean {strokes : List Stroke} (recorded : roundTrips strokes ≠ [])
    (few : (roundTrips strokes).length < 2 ^ 64)
    (small : ((roundTrips strokes).map (· / 1000)).sum < 2 ^ 64) :
    ∃ mean, (ofStrokes strokes).mean? = some mean ∧
      mean.toNat = ((roundTrips strokes).map (· / 1000)).sum / (roundTrips strokes).length := by
  have counted : (ofStrokes strokes).mean? ≠ none := by
    rw [Ne, mean?_eq_none_iff, Nat.mod_eq_of_lt few]
    exact mt List.eq_nil_of_length_eq_zero recorded
  obtain ⟨mean, found⟩ := Option.ne_none_iff_exists'.mp counted
  refine ⟨mean, found, ?_⟩
  rw [toNat_mean found, sum_roundTripMicros_of_lt small, Nat.mod_eq_of_lt small,
    Nat.mod_eq_of_lt few]

/-! ## The average -/

/-- The average in microseconds of times in nanoseconds. -/
def average (trips : List Nat) : ℚ := trips.sum / trips.length / 1000

theorem exists_bounds {trips : List Nat} (recorded : trips ≠ []) :
    ∃ shortest ∈ trips, ∃ longest ∈ trips,
      ∀ nanos ∈ trips, shortest ≤ nanos ∧ nanos ≤ longest :=
  ⟨trips.min recorded, List.min_mem recorded, trips.max recorded, List.max_mem recorded,
    fun _ member => ⟨List.min_le_of_mem member, List.le_max_of_mem member⟩⟩

/-- A quotient of a sum by its length is between what all terms are between. -/
theorem between_of_forall {micros : List Nat} (some : micros ≠ []) {low high : Nat}
    (bounds : ∀ m ∈ micros, low ≤ m ∧ m ≤ high) :
    low ≤ micros.sum / micros.length ∧ micros.sum / micros.length ≤ high := by
  have positive := List.length_pos_iff.mpr some
  have above := List.card_nsmul_le_sum micros low fun m member => (bounds m member).1
  have below := List.sum_le_card_nsmul micros high fun m member => (bounds m member).2
  rw [Nat.nsmul_eq_mul] at above below
  exact ⟨(Nat.le_div_iff_mul_le positive).mpr (by rwa [Nat.mul_comm]), Nat.div_le_of_le_mul below⟩

/-- Whole microseconds are less than one microsecond short for each round trip. -/
theorem sum_micros_le (trips : List Nat) :
    1000 * (trips.map (· / 1000)).sum ≤ trips.sum ∧
      trips.sum ≤ 1000 * (trips.map (· / 1000)).sum + 999 * trips.length := by
  induction trips with
  | nil => simp
  | cons nanos trips ih =>
      simp only [List.map_cons, List.sum_cons, List.length_cons]
      omega

theorem average_bounds {trips : List Nat} (recorded : trips ≠ []) :
    let mean := (trips.map (· / 1000)).sum / trips.length
    (mean : ℚ) ≤ average trips ∧ average trips < mean + 2 := by
  intro mean
  have positive : 0 < trips.length := List.length_pos_iff.mpr recorded
  obtain ⟨above, below⟩ := sum_micros_le trips
  have quotient : mean * trips.length ≤ (trips.map (· / 1000)).sum := Nat.div_mul_le_self _ _
  have remainder : (trips.map (· / 1000)).sum < trips.length * (mean + 1) :=
    Nat.lt_mul_div_succ _ positive
  have lower : mean * (trips.length * 1000) ≤ trips.sum := by
    rw [← Nat.mul_assoc]
    omega
  have upper : trips.sum < (mean + 2) * (trips.length * 1000) := by
    have twice : (mean + 2) * (trips.length * 1000) =
        1000 * (trips.length * (mean + 1)) + 1000 * trips.length := by ring
    omega
  have scale : (0 : ℚ) < trips.length * 1000 := by positivity
  rw [average, div_div, le_div_iff₀ scale, div_lt_iff₀ scale]
  exact ⟨by exact_mod_cast lower, by exact_mod_cast upper⟩

/-- Every counter is a sum modulo 2⁶⁴, whatever the order, and the mean exists unless the replies
are zero modulo 2⁶⁴, so it divides by no zero. Round trips whose number and whole microseconds
did not wrap have a mean between the shortest and the longest of them, and less than two
microseconds short of their average. -/
theorem recording_adds_up (strokes : List Stroke) :
    (∀ counter, ((ofStrokes strokes).read counter).toNat =
      (strokes.map (·.adds counter)).sum % 2 ^ 64) ∧
    (∀ others, strokes.Perm others → ofStrokes others = ofStrokes strokes) ∧
    ((ofStrokes strokes).mean? = none ↔ (roundTrips strokes).length % 2 ^ 64 = 0) ∧
    (∀ mean, (ofStrokes strokes).mean? = some mean →
      mean.toNat = (strokes.map (·.adds .roundTripMicros)).sum % 2 ^ 64 /
        ((roundTrips strokes).length % 2 ^ 64)) ∧
    (ofStrokes strokes).meanBy divide? = some (ofStrokes strokes).mean? ∧
    (roundTrips strokes ≠ [] → (roundTrips strokes).length < 2 ^ 64 →
      ((roundTrips strokes).map (· / 1000)).sum < 2 ^ 64 →
      ∃ mean, (ofStrokes strokes).mean? = some mean ∧
        (∃ shortest ∈ roundTrips strokes, ∃ longest ∈ roundTrips strokes,
          (∀ nanos ∈ roundTrips strokes, shortest ≤ nanos ∧ nanos ≤ longest) ∧
          shortest / 1000 ≤ mean.toNat ∧ mean.toNat ≤ longest / 1000) ∧
        (mean.toNat : ℚ) ≤ average (roundTrips strokes) ∧
        average (roundTrips strokes) < mean.toNat + 2) := by
  refine ⟨fun counter => ?_, fun others perm => (ofStrokes_perm perm).symm,
    mean?_eq_none_iff strokes, fun _ => toNat_mean, meanBy_divide? _, fun recorded few small => ?_⟩
  · rw [read_ofStrokes, UInt64.toNat_ofNat']
  obtain ⟨mean, found, value⟩ := exists_mean recorded few small
  obtain ⟨shortest, short, longest, long, bounds⟩ := exists_bounds recorded
  have between : ∀ micros ∈ (roundTrips strokes).map (· / 1000),
      shortest / 1000 ≤ micros ∧ micros ≤ longest / 1000 := by
    intro micros member
    obtain ⟨nanos, recorded, rfl⟩ := List.mem_map.mp member
    exact (bounds nanos recorded).imp Nat.div_le_div_right Nat.div_le_div_right
  have bracket := between_of_forall (mt List.map_eq_nil_iff.mp recorded) between
  rw [List.length_map, ← value] at bracket
  have close := average_bounds recorded
  rw [← value] at close
  exact ⟨mean, found, ⟨shortest, short, longest, long, bounds, bracket⟩, close⟩

/-- Both roundings show: the average is about two and a half. -/
example : (ofStrokes [.replyMatched 1999, .replyMatched 2999]).mean? = some 1 := by
  decide

/-- A number of replies that wraps is why the mean asks for fewer: with 2⁶⁴ of them there is
none, however short they are. -/
theorem mean?_replicate_eq_none_iff (count nanos : Nat) :
    (ofStrokes (List.replicate count (.replyMatched nanos))).mean? = none ↔
      count % 2 ^ 64 = 0 := by
  have reply : (Stroke.replyMatched nanos).nanos? = some nanos := rfl
  rw [mean?_eq_none_iff, roundTrips, List.filterMap_replicate_of_some reply,
    List.length_replicate]

end RoundTrip.Tally
