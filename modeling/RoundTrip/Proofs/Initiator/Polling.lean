import RoundTrip.Proofs.Initiator

/-!
# Polling

Polling lets the delays begin that have not begun (`Deadlines.begun`), and runs what is due
in the order in which it was scheduled.

Main result: this is the same as firing the deadlines that are due one after the other
(`poll_eq_run`), so that what is said of deadlines that fire holds of polling as well.
-/

namespace RoundTrip

namespace Deadlines

variable {α : Type} {ds : Deadlines α}

/-- The delays that have not begun begin, unless there was a shutdown. -/
def begun (ds : Deadlines α) : Deadlines α :=
  if ds.isShutDown then ds else { ds with held := ds.held.map (·.start ds.now) }

/-- What is due. After a shutdown there is nothing. -/
def due (ds : Deadlines α) : List (Deadline α) :=
  if ds.isShutDown then [] else ds.held.filter (·.isDue ds.now)

/-- Take deadlines out one after the other. -/
def takeAll (numbers : List Nat) (ds : Deadlines α) : Deadlines α :=
  numbers.foldl (fun ds number => (ds.take number).2) ds

theorem takeAll_eq (numbers : List Nat) (ds : Deadlines α) :
    ds.takeAll numbers = { ds with held := ds.held.filter (·.number ∉ numbers) } := by
  induction numbers generalizing ds with
  | nil => simp [takeAll]
  | cons number numbers ih =>
      refine (ih (ds.take number).2).trans ?_
      simp only [take, List.filter_filter, List.mem_cons, not_or, ne_eq, Bool.decide_and,
        Bool.and_comm]

theorem numbers_begun (ds : Deadlines α) :
    ds.begun.held.map (·.number) = ds.held.map (·.number) := by
  rw [begun]
  split
  · rfl
  · exact List.map_map

theorem armedFor_begun (ds : Deadlines α) : ds.begun.armedFor = ds.armedFor := by
  rw [begun]
  split
  · rfl
  · simp only [armedFor, armed, List.filter_map, List.map_map]
    rfl

theorem numbered_begun (numbered : ds.Numbered) : ds.begun.Numbered := by
  have scheduled : ds.begun.scheduled = ds.scheduled := by
    rw [begun]
    split <;> rfl
  exact numbered.of_numbers (numbers_begun ds) scheduled

theorem shutdowns_begun (ds : Deadlines α) : ds.begun.shutdowns = ds.shutdowns := by
  rw [begun]
  split <;> rfl

theorem armed_of_due {d : Deadline α} (due : d ∈ ds.due) : d ∈ ds.armed := by
  rw [Deadlines.due] at due
  split at due
  · cases due
  · obtain ⟨held, isDue⟩ := List.mem_filter.mp due
    rw [Deadline.isDue, Bool.and_eq_true] at isDue
    exact List.mem_filter.mpr ⟨held, isDue.1⟩

theorem due_nodup (numbered : ds.Numbered) : (ds.due.map (·.number)).Nodup := by
  have numbers := numbered.ascending.imp Nat.ne_of_lt
  rw [due]
  split
  · exact List.nodup_nil
  · exact numbers.sublist (List.filter_sublist.map _)

/-- Each number stands for one deadline. -/
theorem isDue_iff (numbered : ds.Numbered) (up : ds.isShutDown = false) {d : Deadline α}
    (held : d ∈ ds.held) : d.isDue ds.now = true ↔ d.number ∈ ds.due.map (·.number) := by
  have distinct : (ds.held.map (·.number)).Nodup := numbered.ascending.imp Nat.ne_of_lt
  rw [due, if_neg (ne_true_of_eq_false up)]
  constructor
  · exact fun isDue => List.mem_map_of_mem (List.mem_filter.mpr ⟨held, isDue⟩)
  · intro listed
    obtain ⟨other, member, same⟩ := List.mem_map.mp listed
    obtain ⟨otherHeld, isDue⟩ := List.mem_filter.mp member
    rwa [← List.inj_on_of_nodup_map distinct otherHeld held same]

/-- What is left is what is not due. -/
theorem poll_eq (numbered : ds.Numbered) :
    ds.poll = (ds.begun.due.map (·.action), ds.begun.takeAll (ds.begun.due.map (·.number))) := by
  cases down : ds.isShutDown with
  | true => simp [poll_of_shutDown down, takeAll_eq, due, begun, down]
  | false =>
      have still : ds.begun.isShutDown = false := by rw [isShutDown, shutdowns_begun]; exact down
      have left : ds.begun.held.filter (!·.isDue ds.begun.now) =
          ds.begun.held.filter (·.number ∉ ds.begun.due.map (·.number)) := by
        apply List.filter_congr
        intro d held
        simp only [← isDue_iff (numbered_begun numbered) still held, Bool.not_eq_true,
          Bool.decide_eq_false]
      rw [takeAll_eq, ← left, due, if_neg (ne_true_of_eq_false still)]
      simp only [poll, begun, down, Bool.false_eq_true, ↓reduceIte]

end Deadlines

namespace Initiator

variable {i : Initiator}

/-- The delays that have not begun begin. -/
def beginDelays (i : Initiator) : Initiator := { i with deadlines := i.deadlines.begun }

theorem sound_beginDelays (sound : i.Sound) : i.beginDelays.Sound where
  ledger := sound.ledger
  numbered := Deadlines.numbered_begun sound.numbered
  covered := (Deadlines.armedFor_begun i.deadlines).trans sound.covered
  shutdowns := (Deadlines.shutdowns_begun i.deadlines).trans sound.shutdowns

theorem sound_advanceDeadlines (sound : i.Sound) (nanos : Nat) :
    (i.advanceDeadlines nanos).Sound :=
  ⟨sound.ledger, ⟨sound.numbered.ascending, sound.numbered.below⟩, sound.covered, sound.shutdowns⟩

theorem expire_deadlines (deadlines : Deadlines CorrelationId) (i : Initiator) (id : CorrelationId) :
    expire { i with deadlines } id = { i.expire id with deadlines } := by
  simp only [expire]
  cases i.ledger.expire? id <;> rfl

theorem fire_of_armed (numbered : i.deadlines.Numbered) {d : Deadline CorrelationId}
    (armed : d ∈ i.deadlines.armed) :
    (i.fire d.number).2 = { i.expire d.action with deadlines := (i.deadlines.take d.number).2 } := by
  have found := (find?_key_eq_some_iff (Deadlines.armed_nodup numbered)).mpr ⟨armed, rfl⟩
  simp only [fire, Deadlines.take, found, Option.map_some, expire_deadlines]

/-- Firing armed deadlines runs their actions. -/
theorem run_fire (due : List (Deadline CorrelationId)) (numbered : i.deadlines.Numbered)
    (armed : ∀ d ∈ due, d ∈ i.deadlines.armed) (distinct : (due.map (·.number)).Nodup) :
    i.run (due.map (.fire ·.number)) = (due.map (·.action)).foldl expire
      { i with deadlines := i.deadlines.takeAll (due.map (·.number)) } := by
  induction due generalizing i with
  | nil => rfl
  | cons d due ih =>
      obtain ⟨own, distinct⟩ := List.nodup_cons.mp distinct
      have fired := fire_of_armed numbered (armed d List.mem_cons_self)
      have numbered : (i.fire d.number).2.deadlines.Numbered := by
        rw [fired]
        exact Deadlines.numbered_take numbered d.number
      have still : ∀ other ∈ due, other ∈ (i.fire d.number).2.deadlines.armed := by
        intro other member
        have differs : other.number ≠ d.number := fun same =>
          own (List.mem_map.mpr ⟨other, member, same⟩)
        rw [fired]
        show other ∈ (i.deadlines.take d.number).2.armed
        rw [Deadlines.armed_take]
        exact List.mem_filter.mpr ⟨armed other (List.mem_cons_of_mem d member), by simpa using differs⟩
      refine (ih numbered still distinct).trans ?_
      rw [fired]
      exact congrArg (fun next => (due.map (·.action)).foldl expire next)
        (expire_deadlines _ i d.action).symm

/-- Polling is firing what is due. -/
theorem poll_eq_run (sound : i.Sound) :
    i.poll = i.beginDelays.run (i.beginDelays.deadlines.due.map (.fire ·.number)) := by
  have numbered := Deadlines.numbered_begun sound.numbered
  rw [run_fire _ numbered (fun _ => Deadlines.armed_of_due) (Deadlines.due_nodup numbered), poll,
    Deadlines.poll_eq sound.numbered]
  rfl

end Initiator

end RoundTrip
