import RoundTrip.Proofs.Deadlines
import RoundTrip.Proofs.Ledger

/-!
# Deadlines as tasks

Every deadline is a task of its own. Tasks get turns in any order and at any time, and a delay
begins with the first turn of its task. In a turn a task ends when it sees that its delay is over,
and then it runs its action, or when it sees a shutdown. Where both are there to see, it may see
either of them (`Deadline.turn`).

A step does one of five things to a deadline that is held (`fate`), and one that is not held does
not come back (`find?_act_of_none`). Polling is one turn for every task, in which a shutdown is
seen first (`poll_eq_turns`).
-/

namespace RoundTrip

variable {α : Type}

namespace Deadline

/-- The task of a deadline gets a turn: the action if it runs, and the deadline if it stays. A
task that sees the end of its delay before a shutdown is eager. -/
def turn (now : Nat) (down eager : Bool) (d : Deadline α) : Option α × Option (Deadline α) :=
  let begun := d.start now
  if begun.isDue now && (eager || !down) then (some d.action, none)
  else if down then (none, none)
  else (none, some begun)

theorem isDue_start (now : Nat) (d : Deadline α) :
    (d.start now).isDue now = true ↔
      d.cancelled = false ∧ d.due.getD (now + d.wait) ≤ now := by
  simp [isDue, start]

/-- A task runs its action and ends, or ends at a shutdown, or stays. -/
theorem turn_cases (now : Nat) (down eager : Bool) (d : Deadline α) :
    (d.turn now down eager = (some d.action, none) ∧ (d.start now).isDue now = true ∧
      (down = true → eager = true)) ∨
    (d.turn now down eager = (none, none) ∧ down = true) ∨
    (d.turn now down eager = (none, some (d.start now)) ∧ down = false ∧
      (d.start now).isDue now = false) := by
  unfold turn
  cases down <;> cases eager <;> cases ready : (d.start now).isDue now <;> simp [ready]

theorem number_turn {d after : Deadline α} {now : Nat} {down eager : Bool}
    (stays : (d.turn now down eager).2 = some after) : after.number = d.number := by
  rcases d.turn_cases now down eager with ⟨ran, -⟩ | ⟨ended, -⟩ | ⟨stayed, -⟩
  · simp [ran] at stays
  · simp [ended] at stays
  · rw [stayed] at stays
    rw [← Option.some.inj stays]
    rfl

end Deadline

namespace Deadlines

def find? (number : Nat) (ds : Deadlines α) : Option (Deadline α) :=
  ds.held.find? (·.number = number)

/-- One task gets a turn. -/
def turn (number : Nat) (eager : Bool) (ds : Deadlines α) : Option α × Deadlines α :=
  ((ds.find? number).bind fun d => (d.turn ds.now ds.isShutDown eager).1,
    { ds with
      held := ds.held.filterMap fun d =>
        if d.number = number then (d.turn ds.now ds.isShutDown eager).2 else some d })

/-- What is done with deadlines, and the turns of their tasks. -/
inductive Step (α : Type)
  | schedule (delay : Nat) (action : α)
  | cancel (number : Nat)
  /-- The handle of a deadline is dropped. -/
  | release (number : Nat)
  | advance (nanos : Nat)
  /-- Everything is shut down, or dropped. -/
  | shutdown
  | turn (number : Nat) (eager : Bool)
deriving DecidableEq, Repr

/-- An action that runs. -/
structure Firing (α : Type) where
  number : Nat
  time : Nat
  action : α
deriving DecidableEq, Repr

def act (ds : Deadlines α) : Step α → Deadlines α
  | .schedule delay action => (ds.schedule delay action).2
  | .cancel number => ds.cancel number
  | .release _ => ds
  | .advance nanos => ds.advance nanos
  | .shutdown => ds.shutdown
  | .turn number eager => (ds.turn number eager).2

def run (ds : Deadlines α) (steps : List (Step α)) : Deadlines α := steps.foldl act ds

def firing? (ds : Deadlines α) : Step α → Option (Firing α)
  | .turn number eager => (ds.turn number eager).1.map fun action => ⟨number, ds.now, action⟩
  | .schedule _ _ | .cancel _ | .release _ | .advance _ | .shutdown => none

/-- The actions that run, in order. -/
def firings (ds : Deadlines α) : List (Step α) → List (Firing α)
  | [] => []
  | step :: steps => (ds.firing? step).toList ++ (ds.act step).firings steps

/-- How often and when the action of one deadline runs. -/
def runs (number : Nat) (ds : Deadlines α) (steps : List (Step α)) : List (Firing α) :=
  (ds.firings steps).filter (·.number = number)

/-- The action of one deadline, if it runs in this step. -/
def ran? (number : Nat) (ds : Deadlines α) (step : Step α) : Option (Firing α) :=
  (ds.firing? step).filter (·.number = number)

variable {ds : Deadlines α} {number : Nat}

theorem run_append (ds : Deadlines α) (first later : List (Step α)) :
    ds.run (first ++ later) = (ds.run first).run later :=
  List.foldl_append

theorem runs_cons (number : Nat) (ds : Deadlines α) (step : Step α) (steps : List (Step α)) :
    ds.runs number (step :: steps) =
      (ds.ran? number step).toList ++ (ds.act step).runs number steps := by
  rw [runs, firings, List.filter_append, ran?]
  congr 1
  cases ds.firing? step with
  | none => rfl
  | some f => by_cases own : f.number = number <;> simp [own, Option.filter]

theorem runs_append (number : Nat) (ds : Deadlines α) (first later : List (Step α)) :
    ds.runs number (first ++ later) = ds.runs number first ++ (ds.run first).runs number later := by
  induction first generalizing ds with
  | nil => rfl
  | cons step first ih =>
      rw [List.cons_append, runs_cons, runs_cons, ih, List.append_assoc]
      rfl

/-! ## Finding a deadline -/

theorem number_of_find? {d : Deadline α} (found : ds.find? number = some d) :
    d.number = number := by
  simpa using List.find?_some found

theorem find?_eq_some_iff (numbered : ds.Numbered) {d : Deadline α} :
    ds.find? number = some d ↔ d ∈ ds.held ∧ d.number = number :=
  find?_key_eq_some_iff (numbered.ascending.imp Nat.ne_of_lt)

theorem Numbered.lt_of_find? (numbered : ds.Numbered) {d : Deadline α}
    (found : ds.find? number = some d) : number < ds.scheduled := by
  rw [← number_of_find? found]
  exact numbered.below d (List.mem_of_find?_eq_some found)

theorem Numbered.find?_scheduled (numbered : ds.Numbered) : ds.find? ds.scheduled = none := by
  cases found : ds.find? ds.scheduled with
  | none => rfl
  | some d => exact absurd (numbered.lt_of_find? found) (Nat.lt_irrefl _)

/-- Each deadline on its own is changed or left out, and its number is kept. -/
theorem find?_filterMap {held : List (Deadline α)} {f : Deadline α → Option (Deadline α)}
    (ascending : (held.map (·.number)).Pairwise (· < ·))
    (keeps : ∀ d after, f d = some after → after.number = d.number) (number : Nat) :
    (held.filterMap f).find? (·.number = number) =
      (held.find? (·.number = number)).bind f := by
  induction held with
  | nil => rfl
  | cons d held ih =>
      rw [List.map_cons, List.pairwise_cons] at ascending
      have rest := ih ascending.2
      by_cases own : d.number = number
      · have others : held.find? (·.number = number) = none := by
          refine List.find?_eq_none.mpr fun other member => ?_
          have := ascending.1 other.number (List.mem_map_of_mem member)
          simp only [decide_eq_true_eq]
          omega
        cases after : f d with
        | none => simpa [own, after, others] using rest
        | some new => simp [own, after, keeps d new after]
      · cases after : f d with
        | none => simpa [own, after] using rest
        | some new => simpa [own, after, keeps d new after] using rest

theorem numbers_filterMap {held : List (Deadline α)} {f : Deadline α → Option (Deadline α)}
    (keeps : ∀ d after, f d = some after → after.number = d.number) :
    ((held.filterMap f).map (·.number)).Sublist (held.map (·.number)) := by
  induction held with
  | nil => simp
  | cons d held ih =>
      cases after : f d with
      | none => simpa [after] using ih.cons d.number
      | some new => simpa [after, keeps d new after] using ih

/-- Only the deadline whose task gets the turn can change. -/
theorem number_of_turn (now : Nat) (down eager : Bool) (number : Nat) (d after : Deadline α)
    (stays : (if d.number = number then (d.turn now down eager).2 else some d) = some after) :
    after.number = d.number := by
  split at stays
  · exact Deadline.number_turn stays
  · rw [Option.some.inj stays]

theorem find?_turn (numbered : ds.Numbered) (other : Nat) (eager : Bool) :
    (ds.turn other eager).2.find? number =
      if other = number then (ds.find? number).bind fun d => (d.turn ds.now ds.isShutDown eager).2
      else ds.find? number := by
  have found := find?_filterMap numbered.ascending
    (number_of_turn ds.now ds.isShutDown eager other) number
  rw [turn, find?, found, ← find?]
  cases held : ds.find? number with
  | none => simp
  | some d =>
      by_cases own : other = number
      · simp [own, number_of_find? held]
      · simp [own, number_of_find? held, Ne.symm own]

theorem find?_schedule (given : number ≠ ds.scheduled) (delay : Nat) (action : α) :
    (ds.schedule delay action).2.find? number = ds.find? number := by
  cases up : ds.isShutDown <;> simp [schedule, up, find?, Ne.symm given]

theorem find?_schedule_scheduled (numbered : ds.Numbered) (up : ds.isShutDown = false)
    (delay : Nat) (action : α) :
    (ds.schedule delay action).2.find? ds.scheduled =
      some ⟨ds.scheduled, delay, ds.longest, none, action, false⟩ := by
  have fresh : ds.held.find? (·.number = ds.scheduled) = none := numbered.find?_scheduled
  simp [schedule, up, find?, fresh]

theorem find?_cancel (other : Nat) :
    (ds.cancel other).find? number =
      (ds.find? number).map fun d =>
        if other = number then { d with cancelled := true } else d := by
  rw [find?, cancel, List.find?_map]
  have same : ((fun d : Deadline α => decide (d.number = number)) ∘ fun d : Deadline α =>
      if d.number = other then { d with cancelled := true } else d) =
        fun d => decide (d.number = number) := by
    funext d
    simp only [Function.comp_apply]
    split <;> rfl
  rw [same, ← find?]
  cases held : ds.find? number with
  | none => rfl
  | some d => simp [number_of_find? held, eq_comm]

/-! ## One step -/

theorem numbered_act (numbered : ds.Numbered) (step : Step α) : (ds.act step).Numbered := by
  cases step with
  | schedule delay action =>
      cases up : ds.isShutDown with
      | false => exact numbered_schedule numbered up delay action
      | true =>
          have held : (ds.act (.schedule delay action)).held = ds.held :=
            (schedule_of_shutDown up delay action).2
          refine ⟨by rw [held]; exact numbered.ascending, fun d member => ?_⟩
          rw [held] at member
          have later : (ds.act (.schedule delay action)).scheduled = ds.scheduled + 1 := by
            simp [act, schedule, up]
          exact later ▸ Nat.lt_succ_of_lt (numbered.below d member)
  | cancel other => exact numbered_cancelAll numbered [some other]
  | release other => exact numbered
  | advance nanos => exact ⟨numbered.ascending, numbered.below⟩
  | shutdown => exact ⟨numbered.ascending, numbered.below⟩
  | turn other eager =>
      have keeps := number_of_turn (α := α) ds.now ds.isShutDown eager other
      refine ⟨numbered.ascending.sublist (numbers_filterMap keeps), fun d member => ?_⟩
      obtain ⟨before, held, stays⟩ := List.mem_filterMap.mp member
      rw [keeps before d stays]
      exact numbered.below before held

theorem numbered_run (numbered : ds.Numbered) (steps : List (Step α)) :
    (ds.run steps).Numbered := by
  induction steps generalizing ds with
  | nil => exact numbered
  | cons step steps ih => exact ih (numbered_act numbered step)

theorem scheduled_act_le (ds : Deadlines α) (step : Step α) :
    ds.scheduled ≤ (ds.act step).scheduled := by
  cases step with
  | schedule delay action => cases up : ds.isShutDown <;> simp [act, schedule, up]
  | cancel | release | advance | shutdown | turn => exact Nat.le_refl _

/-- The number of a deadline that was scheduled. -/
structure Given (number : Nat) (ds : Deadlines α) : Prop where
  numbered : ds.Numbered
  below : number < ds.scheduled

theorem Given.act (given : ds.Given number) (step : Step α) : (ds.act step).Given number :=
  ⟨numbered_act given.numbered step, Nat.lt_of_lt_of_le given.below (scheduled_act_le ds step)⟩

theorem Given.run (given : ds.Given number) (steps : List (Step α)) :
    (ds.run steps).Given number := by
  induction steps generalizing ds with
  | nil => exact given
  | cons step steps ih => exact ih (given.act step)

theorem now_act_le (ds : Deadlines α) (step : Step α) : ds.now ≤ (ds.act step).now := by
  cases step with
  | schedule delay action => cases up : ds.isShutDown <;> simp [act, schedule, up]
  | advance nanos => exact Nat.le_add_right _ _
  | cancel | release | shutdown | turn => exact Nat.le_refl _

theorem now_run_le (ds : Deadlines α) (steps : List (Step α)) : ds.now ≤ (ds.run steps).now := by
  induction steps generalizing ds with
  | nil => exact Nat.le_refl _
  | cons step steps ih => exact Nat.le_trans (now_act_le ds step) (ih (ds.act step))

/-- The runtime stays the same. -/
theorem longest_act (ds : Deadlines α) (step : Step α) : (ds.act step).longest = ds.longest := by
  cases step with
  | schedule delay action => cases up : ds.isShutDown <;> simp [act, schedule, up]
  | cancel | release | advance | shutdown | turn => rfl

theorem longest_run (ds : Deadlines α) (steps : List (Step α)) :
    (ds.run steps).longest = ds.longest := by
  induction steps generalizing ds with
  | nil => rfl
  | cons step steps ih => exact (ih (ds.act step)).trans (longest_act ds step)

theorem isShutDown_act (ds : Deadlines α) (step : Step α) :
    (ds.act step).isShutDown = (ds.isShutDown || step matches .shutdown) := by
  cases step with
  | schedule delay action => cases up : ds.isShutDown <;> simp_all [act, schedule, isShutDown]
  | shutdown => simp [act, isShutDown_shutdown]
  | cancel | release | advance | turn => exact (Bool.or_false _).symm

theorem ran?_turn (other : Nat) (eager : Bool) :
    ds.ran? number (.turn other eager) =
      if other = number then
        (ds.find? number).bind fun d =>
          (d.turn ds.now ds.isShutDown eager).1.map fun action => ⟨number, ds.now, action⟩
      else none := by
  by_cases own : other = number
  · subst own
    simp only [ran?, firing?, turn, ↓reduceIte]
    cases ds.find? other with
    | none => rfl
    | some d => cases ran : (d.turn ds.now ds.isShutDown eager).1 <;> simp [ran, Option.filter]
  · simp only [ran?, firing?, own, ↓reduceIte]
    cases ran : (ds.turn other eager).1 <;> simp [Option.filter, own]

/-- What a step does to one deadline. -/
inductive Fate (ds : Deadlines α) (number : Nat) (d : Deadline α) (step : Step α) : Prop
  /-- Its task gets a turn and runs the action. -/
  | runs (eager : Bool) (turn : step = .turn number eager)
      (seen : ds.isShutDown = true → eager = true) (due : (d.start ds.now).isDue ds.now = true)
      (ran : ds.ran? number step = some ⟨number, ds.now, d.action⟩)
      (after : (ds.act step).find? number = none)
  /-- Its task gets a turn and sees a shutdown. -/
  | ends (eager : Bool) (turn : step = .turn number eager) (down : ds.isShutDown = true)
      (ran : ds.ran? number step = none) (after : (ds.act step).find? number = none)
  /-- Its task gets a turn too early. -/
  | waits (eager : Bool) (turn : step = .turn number eager) (up : ds.isShutDown = false)
      (early : (d.start ds.now).isDue ds.now = false) (ran : ds.ran? number step = none)
      (after : (ds.act step).find? number = some (d.start ds.now))
  | cancelled (cancel : step = .cancel number) (ran : ds.ran? number step = none)
      (after : (ds.act step).find? number = some { d with cancelled := true })
  /-- The step is not about this deadline. -/
  | untouched (unturned : ∀ eager, step ≠ .turn number eager) (uncut : step ≠ .cancel number)
      (ran : ds.ran? number step = none) (after : (ds.act step).find? number = some d)

theorem fate (numbered : ds.Numbered) {d : Deadline α} (found : ds.find? number = some d)
    (step : Step α) : ds.Fate number d step := by
  cases step with
  | schedule delay action =>
      have given := Nat.ne_of_lt (numbered.lt_of_find? found)
      exact .untouched (by simp) (by simp) rfl ((find?_schedule given delay action).trans found)
  | cancel other =>
      have after : (ds.cancel other).find? number = _ := find?_cancel other
      by_cases own : other = number
      · exact .cancelled (by rw [own]) rfl (by rw [act, after, found]; simp [own])
      · exact .untouched (by simp) (by simpa using own) rfl
          (by rw [act, after, found]; simp [own])
  | release other => exact .untouched (by simp) (by simp) rfl found
  | advance nanos => exact .untouched (by simp) (by simp) rfl found
  | shutdown => exact .untouched (by simp) (by simp) rfl found
  | turn other eager =>
      have after : (ds.turn other eager).2.find? number = _ := find?_turn numbered other eager
      have ran : ds.ran? number (.turn other eager) = _ := ran?_turn other eager
      by_cases own : other = number
      · subst own
        simp only [found, ↓reduceIte, Option.bind_some] at after ran
        rcases d.turn_cases ds.now ds.isShutDown eager with
          ⟨turned, due, seen⟩ | ⟨turned, down⟩ | ⟨turned, up, early⟩
        · exact .runs eager rfl seen due (by rw [ran, turned]; rfl) (by rw [act, after, turned])
        · exact .ends eager rfl down (by rw [ran, turned]; rfl) (by rw [act, after, turned])
        · exact .waits eager rfl up early (by rw [ran, turned]; rfl) (by rw [act, after, turned])
      · simp only [own, ↓reduceIte] at after ran
        exact .untouched (by simpa using own) (by simp) ran (after.trans found)

/-- A deadline that is not held does not come back, and nothing of it runs. -/
theorem find?_act_of_none (given : ds.Given number)
    (gone : ds.find? number = none) (step : Step α) :
    ds.ran? number step = none ∧ (ds.act step).find? number = none := by
  cases step with
  | schedule delay action =>
      exact ⟨rfl, (find?_schedule (Nat.ne_of_lt given.below) delay action).trans gone⟩
  | cancel other => exact ⟨rfl, by rw [act, find?_cancel, gone]; rfl⟩
  | release other => exact ⟨rfl, gone⟩
  | advance nanos => exact ⟨rfl, gone⟩
  | shutdown => exact ⟨rfl, gone⟩
  | turn other eager =>
      exact ⟨by simp [ran?_turn, gone], by simp [act, find?_turn given.numbered, gone]⟩

/-! ## Turns by hand -/

/-- A turn with which a task ends takes its deadline out. -/
theorem turn_of_ended {eager : Bool}
    (ended : ∀ d ∈ ds.held, d.number = number → (d.turn ds.now ds.isShutDown eager).2 = none) :
    (ds.turn number eager).2 = (ds.take number).2 := by
  have left : (ds.held.filterMap fun d =>
      if d.number = number then (d.turn ds.now ds.isShutDown eager).2 else some d) =
        ds.held.filter (·.number ≠ number) := by
    rw [← List.filterMap_eq_filter]
    refine List.filterMap_congr fun d held => ?_
    by_cases own : d.number = number
    · simp [own, ended d held own, Option.guard]
    · simp [own, Option.guard]
  rw [turn, left]
  rfl

theorem turn_of_shutDown (down : ds.isShutDown = true) (number : Nat) (eager : Bool) :
    (ds.turn number eager).2 = (ds.take number).2 := by
  refine turn_of_ended fun d _ _ => ?_
  rcases d.turn_cases ds.now ds.isShutDown eager with ⟨turned, -⟩ | ⟨turned, -⟩ | ⟨-, up, -⟩
  · rw [turned]
  · rw [turned]
  · rw [down] at up
    cases up

section Numbered

variable (numbered : ds.Numbered) {eager : Bool}
include numbered

/-- A turn in which the action runs takes the deadline out. -/
theorem take_of_turn {action : α} (ran : (ds.turn number eager).1 = some action) :
    (ds.take number).1 = some action ∧ (ds.turn number eager).2 = (ds.take number).2 := by
  obtain ⟨d, found, runs⟩ := Option.bind_eq_some_iff.mp ran
  obtain ⟨member, named⟩ := (find?_eq_some_iff numbered).mp found
  rcases d.turn_cases ds.now ds.isShutDown eager with ⟨turned, due, -⟩ | ⟨turned, -⟩ | ⟨turned, -⟩
  · have armed : d ∈ ds.armed :=
      List.mem_filter.mpr ⟨member, by simp [((d.isDue_start ds.now).mp due).1]⟩
    have taken := (find?_key_eq_some_iff (armed_nodup numbered)).mpr ⟨armed, named⟩
    rw [turned] at runs
    refine ⟨by rw [take, taken]; exact runs, turn_of_ended fun other held own => ?_⟩
    have same := found.symm.trans ((find?_eq_some_iff numbered).mpr ⟨held, own⟩)
    rw [← Option.some.inj same, turned]
  · simp [turned] at runs
  · simp [turned] at runs

/-- A turn in which nothing runs begins the delay. -/
theorem turn_of_quiet (up : ds.isShutDown = false) (quiet : (ds.turn number eager).1 = none) :
    (ds.turn number eager).2 =
      { ds with held := ds.held.map fun d => if d.number = number then d.start ds.now else d } := by
  have left : (ds.held.filterMap fun d =>
      if d.number = number then (d.turn ds.now ds.isShutDown eager).2 else some d) =
        ds.held.map fun d => if d.number = number then d.start ds.now else d := by
    rw [← List.filterMap_eq_map]
    refine List.filterMap_congr fun d held => ?_
    by_cases own : d.number = number
    · have found := (find?_eq_some_iff numbered).mpr ⟨held, own⟩
      rcases d.turn_cases ds.now ds.isShutDown eager with ⟨turned, -⟩ | ⟨-, down⟩ | ⟨turned, -⟩
      · simp [turn, found, turned] at quiet
      · rw [up] at down
        cases down
      · simp [own, turned]
    · simp [own]
  rw [turn, left]

theorem armedFor_of_quiet (up : ds.isShutDown = false)
    (quiet : (ds.turn number eager).1 = none) :
    (ds.turn number eager).2.armedFor = ds.armedFor := by
  rw [turn_of_quiet numbered up quiet, armedFor, armedFor, armed, armed, List.filter_map,
    List.map_map]
  have kept : ((fun d : Deadline α => !d.cancelled) ∘ fun d =>
      if d.number = number then d.start ds.now else d) = fun d => !d.cancelled := by
    funext d
    simp only [Function.comp_apply]
    split <;> rfl
  rw [kept]
  apply List.map_congr_left
  intro d _
  simp only [Function.comp_apply]
  split <;> rfl

end Numbered

theorem cancelAll_eq_run (numbers : List (Option Nat)) (ds : Deadlines α) :
    ds.cancelAll numbers = ds.run ((numbers.filterMap id).map .cancel) := by
  induction numbers generalizing ds with
  | nil => rfl
  | cons number numbers ih =>
      have first : ds.cancelAll (number :: numbers) = (ds.cancel? number).cancelAll numbers := rfl
      rw [first, ih]
      cases number <;> rfl

/-! ## Polling -/

/-- A turn for every task, in the order in which they were scheduled. -/
def polling (ds : Deadlines α) : List (Step α) := ds.held.map (.turn ·.number false)

theorem turn_of_held {done rest : List (Deadline α)} {d : Deadline α} (numbered : ds.Numbered)
    (held : ds.held = done ++ d :: rest) (eager : Bool) :
    ds.turn d.number eager =
      ((d.turn ds.now ds.isShutDown eager).1,
        { ds with held := done ++ (d.turn ds.now ds.isShutDown eager).2.toList ++ rest }) := by
  have ascending := numbered.ascending
  rw [held, List.map_append, List.map_cons, List.pairwise_append, List.pairwise_cons] at ascending
  have before : ∀ other ∈ done, other.number ≠ d.number := fun other member =>
    Nat.ne_of_lt (ascending.2.2 _ (List.mem_map_of_mem member) _ List.mem_cons_self)
  have behind : ∀ other ∈ rest, other.number ≠ d.number := fun other member =>
    Nat.ne_of_gt (ascending.2.1.1 _ (List.mem_map_of_mem member))
  have others {part : List (Deadline α)} (named : ∀ other ∈ part, other.number ≠ d.number) :
      (part.filterMap fun other =>
        if other.number = d.number then (other.turn ds.now ds.isShutDown eager).2
        else some other) = part := by
    rw [List.filterMap_congr fun other member => if_neg (named other member)]
    exact List.filterMap_some
  have found : ds.find? d.number = some d :=
    (find?_eq_some_iff numbered).mpr ⟨by simp [held], rfl⟩
  rw [turn, found, held, List.filterMap_append, List.filterMap_cons, others before, others behind]
  cases (d.turn ds.now ds.isShutDown eager).2 <;> simp

/-- Turns for the tasks from one on, when those before it have had theirs. -/
theorem firings_turns (rest : List (Deadline α)) : ∀ (ds : Deadlines α) (done : List (Deadline α)),
    ds.Numbered → ds.isShutDown = false → ds.held = done ++ rest →
    (ds.firings (rest.map (.turn ·.number false))).map (·.action) =
        ((rest.map (·.start ds.now)).filter (·.isDue ds.now)).map (·.action) ∧
      ds.run (rest.map (.turn ·.number false)) =
        { ds with held := done ++ (rest.map (·.start ds.now)).filter (!·.isDue ds.now) } := by
  induction rest with
  | nil =>
      intro ds done numbered up held
      exact ⟨rfl, by rw [List.append_nil] at held; simp [run, ← held]⟩
  | cons d rest ih =>
      intro ds done numbered up held
      have turn := turn_of_held numbered held false
      have after : ds.act (.turn d.number false) = (ds.turn d.number false).2 := rfl
      have now : (ds.act (.turn d.number false)).now = ds.now := rfl
      obtain ⟨actions, last⟩ := ih (ds.act (.turn d.number false)) _ (numbered_act numbered _)
        (by rw [isShutDown_act, up]; rfl) (by rw [after, turn])
      rw [now] at actions last
      have ran : ds.run (.turn d.number false :: rest.map (.turn ·.number false)) =
          (ds.act (.turn d.number false)).run (rest.map (.turn ·.number false)) := rfl
      have same : (d.start ds.now).action = d.action := rfl
      rw [List.map_cons, firings, List.map_append, actions, ran, last, firing?, after, turn]
      cases due : (d.start ds.now).isDue ds.now <;> simp [Deadline.turn, due, up, same]

theorem poll_eq_turns (numbered : ds.Numbered) (up : ds.isShutDown = false) :
    ds.poll = ((ds.firings ds.polling).map (·.action), ds.run ds.polling) := by
  obtain ⟨actions, last⟩ := firings_turns ds.held ds [] numbered up rfl
  rw [polling, actions, last]
  simp [poll, up]

/-- What a poll leaves is due later, unless it was cancelled. -/
theorem due_of_mem_poll (up : ds.isShutDown = false) {d : Deadline α} (left : d ∈ ds.poll.2.held)
    (armed : d.cancelled = false) : ∃ due, d.due = some due ∧ ds.now < due := by
  simp only [poll, up, Bool.false_eq_true, ↓reduceIte] at left
  obtain ⟨started, early⟩ := List.mem_filter.mp left
  obtain ⟨before, -, rfl⟩ := List.mem_map.mp started
  have kept : before.cancelled = false := armed
  refine ⟨_, rfl, Nat.lt_of_not_le fun passed => ?_⟩
  rw [(before.isDue_start ds.now).mpr ⟨kept, passed⟩] at early
  cases early

end Deadlines

end RoundTrip
