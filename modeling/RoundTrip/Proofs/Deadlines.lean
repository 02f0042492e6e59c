import RoundTrip.Deadlines
import Mathlib.Data.List.Nodup

/-!
# Which deadlines are armed

Every operation is described by what it does to the deadlines that are armed:
scheduling adds one at the end (`armed_schedule`), cancelling any number of them
leaves out just these (`armed_cancelAll`), and so does taking one (`armed_take`).
The numbers of the deadlines that are held never repeat (`Numbered`), so a number
names one deadline at most.
-/

namespace RoundTrip

namespace Deadlines

variable {α : Type}

/-- Deadlines are held in the order in which they were scheduled. -/
structure Numbered (ds : Deadlines α) : Prop where
  ascending : (ds.held.map (·.number)).Pairwise (· < ·)
  below : ∀ d ∈ ds.held, d.number < ds.scheduled

/-- What is to be done by each armed deadline, with its number. -/
def armedFor (ds : Deadlines α) : List (α × Option Nat) :=
  ds.armed.map fun d => (d.action, some d.number)

/-- Cancel deadlines one after the other. -/
def cancelAll (numbers : List (Option Nat)) (ds : Deadlines α) : Deadlines α :=
  numbers.foldl (fun ds n => ds.cancel? n) ds

/-! ## What is held -/

theorem held_cancel? (number : Option Nat) (ds : Deadlines α) :
    (ds.cancel? number).held =
      ds.held.map fun d => if some d.number = number then { d with cancelled := true } else d := by
  cases number with
  | none => simp [cancel?]
  | some n => simp [cancel?, cancel]

theorem held_cancelAll (numbers : List (Option Nat)) (ds : Deadlines α) :
    (ds.cancelAll numbers).held =
      ds.held.map fun d => if some d.number ∈ numbers then { d with cancelled := true } else d := by
  induction numbers generalizing ds with
  | nil => simp [cancelAll]
  | cons number numbers ih =>
      have step : ds.cancelAll (number :: numbers) = (ds.cancel? number).cancelAll numbers := rfl
      rw [step, ih, held_cancel?, List.map_map]
      apply List.map_congr_left
      intro d _
      by_cases named : some d.number = number
      · simp [named]
      · simp [named]

theorem numbers_cancelAll (numbers : List (Option Nat)) (ds : Deadlines α) :
    (ds.cancelAll numbers).held.map (·.number) = ds.held.map (·.number) := by
  rw [held_cancelAll, List.map_map]
  apply List.map_congr_left
  intro d _
  simp only [Function.comp_apply]
  split <;> rfl

@[simp] theorem scheduled_cancel? (number : Option Nat) (ds : Deadlines α) :
    (ds.cancel? number).scheduled = ds.scheduled := by
  cases number <;> rfl

@[simp] theorem shutdowns_cancel? (number : Option Nat) (ds : Deadlines α) :
    (ds.cancel? number).shutdowns = ds.shutdowns := by
  cases number <;> rfl

@[simp] theorem scheduled_cancelAll (numbers : List (Option Nat)) (ds : Deadlines α) :
    (ds.cancelAll numbers).scheduled = ds.scheduled := by
  induction numbers generalizing ds with
  | nil => rfl
  | cons number numbers ih => exact (ih (ds.cancel? number)).trans (scheduled_cancel? number ds)

@[simp] theorem shutdowns_cancelAll (numbers : List (Option Nat)) (ds : Deadlines α) :
    (ds.cancelAll numbers).shutdowns = ds.shutdowns := by
  induction numbers generalizing ds with
  | nil => rfl
  | cons number numbers ih => exact (ih (ds.cancel? number)).trans (shutdowns_cancel? number ds)

@[simp] theorem now_cancel? (number : Option Nat) (ds : Deadlines α) :
    (ds.cancel? number).now = ds.now := by
  cases number <;> rfl

@[simp] theorem now_cancelAll (numbers : List (Option Nat)) (ds : Deadlines α) :
    (ds.cancelAll numbers).now = ds.now := by
  induction numbers generalizing ds with
  | nil => rfl
  | cons number numbers ih => exact (ih (ds.cancel? number)).trans (now_cancel? number ds)

/-! ## What is armed -/

theorem armed_schedule {ds : Deadlines α} (up : ds.isShutDown = false) (delay : Nat) (action : α) :
    (ds.schedule delay action).1 = some ds.scheduled ∧
      (ds.schedule delay action).2.armed =
        ds.armed ++ [⟨ds.scheduled, delay, ds.longest, none, action, false⟩] := by
  simp [schedule, up, armed]

theorem armed_cancelAll (numbers : List (Option Nat)) (ds : Deadlines α) :
    (ds.cancelAll numbers).armed = ds.armed.filter (some ·.number ∉ numbers) := by
  rw [armed, armed, held_cancelAll]
  induction ds.held with
  | nil => rfl
  | cons d held ih =>
      by_cases named : some d.number ∈ numbers
      · cases gone : d.cancelled <;> simpa [named, gone] using ih
      · cases gone : d.cancelled <;> simpa [named, gone] using ih

theorem armed_take (number : Nat) (ds : Deadlines α) :
    (ds.take number).2.armed = ds.armed.filter (·.number ≠ number) := by
  simp only [take, armed, List.filter_filter, Bool.and_comm]

/-- Taking hands out an action just if the deadline with this number is armed. -/
theorem take_eq_some {number : Nat} {ds : Deadlines α} {action : α}
    (taken : (ds.take number).1 = some action) : (action, some number) ∈ ds.armedFor := by
  simp only [take, Option.map_eq_some_iff] at taken
  obtain ⟨d, found, rfl⟩ := taken
  have same : d.number = number := by simpa using List.find?_some found
  exact List.mem_map.mpr ⟨d, List.mem_of_find?_eq_some found, by rw [same]⟩

theorem take_eq_none {number : Nat} {ds : Deadlines α} (taken : (ds.take number).1 = none) :
    ∀ action, (action, some number) ∉ ds.armedFor := by
  simp only [take, Option.map_eq_none_iff, List.find?_eq_none] at taken
  intro action member
  obtain ⟨d, armed, same⟩ := List.mem_map.mp member
  simp only [Prod.mk.injEq, Option.some.injEq] at same
  exact taken d armed (by simpa using same.2)

theorem armedFor_cancelAll (numbers : List (Option Nat)) (ds : Deadlines α) :
    (ds.cancelAll numbers).armedFor = ds.armedFor.filter (·.2 ∉ numbers) := by
  rw [armedFor, armedFor, armed_cancelAll, List.filter_map]
  rfl

theorem armedFor_take (number : Nat) (ds : Deadlines α) :
    (ds.take number).2.armedFor = ds.armedFor.filter (·.2 ≠ some number) := by
  rw [armedFor, armedFor, armed_take, List.filter_map]
  congr 2
  funext d
  simp

/-! ## Numbers -/

theorem numbered_schedule {ds : Deadlines α} (numbered : ds.Numbered)
    (up : ds.isShutDown = false) (delay : Nat) (action : α) :
    (ds.schedule delay action).2.Numbered := by
  simp only [schedule, up, Bool.false_eq_true, ↓reduceIte]
  constructor
  · simp only [List.map_append, List.pairwise_append]
    refine ⟨numbered.ascending, by simp, ?_⟩
    intro number member last same
    obtain ⟨d, held, rfl⟩ := List.mem_map.mp member
    simp only [List.map_cons, List.map_nil, List.mem_singleton] at same
    rw [same]
    exact numbered.below d held
  · intro d member
    rcases List.mem_append.mp member with held | added
    · exact Nat.lt_succ_of_lt (numbered.below d held)
    · rw [List.mem_singleton.mp added]
      exact Nat.lt_succ_self _

/-- Deadlines with the same numbers are as well numbered. -/
theorem Numbered.of_numbers {ds next : Deadlines α} (numbered : ds.Numbered)
    (numbers : next.held.map (·.number) = ds.held.map (·.number))
    (scheduled : next.scheduled = ds.scheduled) : next.Numbered := by
  constructor
  · rw [numbers]
    exact numbered.ascending
  · intro d member
    have named : d.number ∈ next.held.map (·.number) := List.mem_map_of_mem member
    rw [numbers] at named
    obtain ⟨held, heldMember, same⟩ := List.mem_map.mp named
    rw [scheduled, ← same]
    exact numbered.below held heldMember

theorem numbered_cancelAll {ds : Deadlines α} (numbered : ds.Numbered)
    (numbers : List (Option Nat)) : (ds.cancelAll numbers).Numbered :=
  numbered.of_numbers (numbers_cancelAll numbers ds) (scheduled_cancelAll numbers ds)

theorem numbered_take {ds : Deadlines α} (numbered : ds.Numbered) (number : Nat) :
    (ds.take number).2.Numbered := by
  constructor
  · exact numbered.ascending.sublist (List.filter_sublist.map _)
  · intro d member
    exact numbered.below d (List.mem_filter.mp member).1

theorem armed_nodup {ds : Deadlines α} (numbered : ds.Numbered) :
    (ds.armed.map (·.number)).Nodup :=
  (numbered.ascending.sublist (List.filter_sublist.map _)).imp Nat.ne_of_lt

theorem armedFor_nodup {ds : Deadlines α} (numbered : ds.Numbered) :
    (ds.armedFor.map (·.2)).Nodup := by
  have numbers := armed_nodup numbered
  have same : ds.armedFor.map (·.2) = (ds.armed.map (·.number)).map some := by
    simp [armedFor]
  rw [same]
  exact numbers.map fun _ _ => Option.some.inj

end Deadlines

end RoundTrip
