import RoundTrip.Proofs.Deadlines.Tasks

/-!
# The contract of a deadline

An action runs where its task gets a turn after its delay (`runs_split`), and what is true of a
deadline stays so as long as beginning its delay and cancelling it keep it true (`held_run`).
Nothing but its own steps, the time and a shutdown matters for it (`runs_of_alike`).

Main result: an action runs once at most, only in a turn of its task, never too early and never
after it was cancelled, and when it is due nothing but a cancel or a shutdown keeps it back
(`contract`). Its delay does not begin before it is scheduled, but maybe later
(`begins_with_first_turn`).
-/

namespace RoundTrip

namespace Deadlines

variable {α : Type} {ds : Deadlines α} {number : Nat}

/-! ## What stays of a deadline -/

/-- What is true of a deadline stays so, if it does when the delay begins and when it is
cancelled. -/
theorem held_act (given : ds.Given number) {P : Deadline α → Prop} {step : Step α}
    (begins : ∀ eager d, step = .turn number eager → P d → P (d.start ds.now))
    (cancels : ∀ d, P d → P { d with cancelled := true })
    (held : ∀ d, ds.find? number = some d → P d) :
    ∀ d, (ds.act step).find? number = some d → P d := by
  intro d' found'
  cases found : ds.find? number with
  | none => simp [(find?_act_of_none given found step).2] at found'
  | some d =>
      have before := held d found
      cases fate given.numbered found step with
      | runs eager turn seen due ran after => simp [after] at found'
      | ends eager turn down ran after => simp [after] at found'
      | waits eager turn up early ran after =>
          obtain rfl := Option.some.inj (after.symm.trans found')
          exact begins eager d turn before
      | cancelled cancel ran after =>
          obtain rfl := Option.some.inj (after.symm.trans found')
          exact cancels d before
      | untouched unturned uncut ran after =>
          obtain rfl := Option.some.inj (after.symm.trans found')
          exact before

theorem held_run (given : ds.Given number) {P : Deadline α → Prop} {steps : List (Step α)}
    (begins : ∀ eager now d, .turn number eager ∈ steps → ds.now ≤ now → P d → P (d.start now))
    (cancels : ∀ d, P d → P { d with cancelled := true })
    (held : ∀ d, ds.find? number = some d → P d) :
    ∀ d, (ds.run steps).find? number = some d → P d := by
  induction steps generalizing ds with
  | nil => exact held
  | cons step steps ih =>
      apply ih (given.act step)
      · intro eager now d member reached
        exact begins eager now d (List.mem_cons_of_mem _ member)
          (Nat.le_trans (now_act_le ds step) reached)
      · refine held_act given (fun eager d turn => ?_) cancels held
        exact begins eager ds.now d (turn ▸ List.mem_cons_self) (Nat.le_refl _)

/-- A delay begins once. -/
theorem due_run (given : ds.Given number) {due : Nat}
    (begun : ∀ d, ds.find? number = some d → d.due = some due) (steps : List (Step α)) :
    ∀ d, (ds.run steps).find? number = some d → d.due = some due :=
  held_run given (fun _ _ _ _ _ begun => by simp [Deadline.start, begun]) (fun _ begun => begun)
    begun

/-- An action runs in a turn of its own task, when its delay has passed. -/
theorem runs_split (given : ds.Given number) {steps : List (Step α)} {f : Firing α}
    (ran : f ∈ ds.runs number steps) :
    ∃ first eager later d, steps = first ++ .turn number eager :: later ∧
      (ds.run first).find? number = some d ∧
      (d.start (ds.run first).now).isDue (ds.run first).now = true ∧
      f = ⟨number, (ds.run first).now, d.action⟩ := by
  induction steps generalizing ds with
  | nil => cases ran
  | cons step steps ih =>
      rw [runs_cons] at ran
      rcases List.mem_append.mp ran with now | later
      · cases found : ds.find? number with
        | none => simp [(find?_act_of_none given found step).1] at now
        | some d =>
            cases fate given.numbered found step with
            | runs eager turn seen due ran after =>
                rw [ran, Option.mem_toList] at now
                exact ⟨[], eager, steps, d, by rw [turn]; rfl, found, due,
                  (Option.some.inj now).symm⟩
            | ends eager turn down ran after => simp [ran] at now
            | waits eager turn up early ran after => simp [ran] at now
            | cancelled cancel ran after => simp [ran] at now
            | untouched unturned uncut ran after => simp [ran] at now
      · obtain ⟨first, eager, rest, d, rfl, found, due, same⟩ := ih (given.act step) later
        exact ⟨step :: first, eager, rest, d, rfl, found, due, same⟩

/-! ## A deadline that has ended -/

/-- Nothing is held under this number but what was cancelled. -/
def Idle (ds : Deadlines α) (number : Nat) : Prop :=
  ∀ d, ds.find? number = some d → d.cancelled = true

theorem idle_of_none (gone : ds.find? number = none) : ds.Idle number := by
  intro d found
  rw [gone] at found
  cases found

theorem idle_run (given : ds.Given number) (idle : ds.Idle number) (steps : List (Step α)) :
    (ds.run steps).Idle number :=
  held_run given (fun _ _ _ _ _ gone => gone) (fun _ _ => rfl) idle

theorem runs_of_idle (given : ds.Given number) (idle : ds.Idle number) (steps : List (Step α)) :
    ds.runs number steps = [] := by
  refine List.eq_nil_iff_forall_not_mem.mpr fun f ran => ?_
  obtain ⟨first, -, -, d, -, found, due, -⟩ := runs_split given ran
  rw [Deadline.isDue_start, idle_run given idle first d found] at due
  exact absurd due.1 (by simp)

theorem runs_length_le_one (given : ds.Given number) (steps : List (Step α)) :
    (ds.runs number steps).length ≤ 1 := by
  induction steps generalizing ds with
  | nil => simp [runs, firings]
  | cons step steps ih =>
      have rest := ih (given.act step)
      rw [runs_cons]
      cases found : ds.find? number with
      | none => simpa [(find?_act_of_none given found step).1] using rest
      | some d =>
          cases fate given.numbered found step with
          | runs eager turn seen due ran after =>
              simp [ran, runs_of_idle (given.act step) (idle_of_none after)]
          | ends eager turn down ran after => simpa [ran] using rest
          | waits eager turn up early ran after => simpa [ran] using rest
          | cancelled cancel ran after => simpa [ran] using rest
          | untouched unturned uncut ran after => simpa [ran] using rest

theorem idle_cancel (ds : Deadlines α) (number : Nat) : (ds.cancel number).Idle number := by
  intro d found
  rw [find?_cancel] at found
  obtain ⟨before, held, rfl⟩ := Option.map_eq_some_iff.mp found
  simp

/-- A shutdown stays. -/
theorem isShutDown_run (down : ds.isShutDown = true) (steps : List (Step α)) :
    (ds.run steps).isShutDown = true := by
  induction steps generalizing ds with
  | nil => exact down
  | cons step steps ih => exact ih (by rw [isShutDown_act, down, Bool.true_or])

theorem isShutDown_run_of_mem {steps : List (Step α)} (stopped : .shutdown ∈ steps) :
    (ds.run steps).isShutDown = true := by
  obtain ⟨first, rest, rfl⟩ := List.append_of_mem stopped
  rw [run_append]
  exact isShutDown_run (isShutDown_shutdown _) rest

/-- After a shutdown a task ends in its next turn. -/
theorem idle_turn_of_shutDown (down : ds.isShutDown = true) (number : Nat) (eager : Bool) :
    (ds.act (.turn number eager)).Idle number := by
  refine idle_of_none ?_
  rw [act, turn_of_shutDown down, find?, take, List.find?_eq_none]
  intro d left
  simpa using (List.mem_filter.mp left).2

/-! ## When an action runs -/

/-- The deadline with this number, if it is held, has this action and is not due before its wait
has passed since then. -/
structure Waits (number : Nat) (action : α) (wait since : Nat) (ds : Deadlines α) : Prop where
  reached : since ≤ ds.now
  held : ∀ d, ds.find? number = some d →
    d.action = action ∧ d.wait = wait ∧ ∀ due, d.due = some due → since + wait ≤ due

variable {action : α} {wait since : Nat}

/-- A delay that begins later ends later. -/
theorem le_due_start {d : Deadline α} {now : Nat} (reached : since ≤ now)
    (bound : ∀ due, d.due = some due → since + d.wait ≤ due) :
    ∃ due, (d.start now).due = some due ∧ since + d.wait ≤ due := by
  refine ⟨_, rfl, ?_⟩
  cases begun : d.due with
  | none => simpa using reached
  | some due => exact bound due begun

theorem waits_run (given : ds.Given number) (waits : ds.Waits number action wait since)
    (steps : List (Step α)) : (ds.run steps).Waits number action wait since := by
  refine ⟨Nat.le_trans waits.reached (now_run_le ds steps), ?_⟩
  refine held_run given ?_ (fun _ kept => kept) waits.held
  rintro - now d - reached ⟨sameAction, rfl, bound⟩
  obtain ⟨due, begun, late⟩ := le_due_start (Nat.le_trans waits.reached reached) bound
  refine ⟨sameAction, rfl, fun due' begun' => ?_⟩
  exact Option.some.inj (begun.symm.trans begun') ▸ late

/-- What waits is due no sooner. -/
theorem Waits.le_of_isDue (waits : ds.Waits number action wait since) {d : Deadline α}
    (found : ds.find? number = some d) (ready : (d.start ds.now).isDue ds.now = true) :
    since + wait ≤ ds.now := by
  obtain ⟨-, rfl, bound⟩ := waits.held d found
  obtain ⟨due, begun, late⟩ := le_due_start waits.reached bound
  simp only [Deadline.isDue, begun, Option.any_some, Bool.and_eq_true, decide_eq_true_eq] at ready
  exact Nat.le_trans late ready.2

theorem time_of_runs (given : ds.Given number) (waits : ds.Waits number action wait since)
    (steps : List (Step α)) :
    ∀ f ∈ ds.runs number steps, f.action = action ∧ since + wait ≤ f.time := by
  intro f ran
  obtain ⟨first, -, -, d, -, found, due, rfl⟩ := runs_split given ran
  have later := waits_run given waits first
  exact ⟨(later.held d found).1, later.le_of_isDue found due⟩

/-- Nothing runs of a deadline whose task gets no turn. -/
theorem runs_of_unturned (given : ds.Given number) {steps : List (Step α)}
    (unturned : ∀ eager, .turn number eager ∉ steps) : ds.runs number steps = [] := by
  refine List.eq_nil_iff_forall_not_mem.mpr fun f ran => ?_
  obtain ⟨first, eager, later, -, rfl, -⟩ := runs_split given ran
  exact unturned eager (by simp)

/-- Without a turn or a cancel a deadline stays as it is. -/
theorem find?_run_of_unturned (numbered : ds.Numbered) {d : Deadline α}
    (found : ds.find? number = some d) {steps : List (Step α)}
    (unturned : ∀ eager, .turn number eager ∉ steps) (uncut : .cancel number ∉ steps) :
    (ds.run steps).find? number = some d := by
  induction steps generalizing ds with
  | nil => exact found
  | cons step steps ih =>
      have first : ∀ eager, step ≠ .turn number eager := fun eager same =>
        unturned eager (same ▸ List.mem_cons_self)
      rw [List.mem_cons, not_or] at uncut
      refine ih (numbered_act numbered step) ?_
        (fun eager member => unturned eager (List.mem_cons_of_mem _ member)) uncut.2
      cases fate numbered found step with
      | runs eager turn seen due ran after => exact absurd turn (first eager)
      | ends eager turn down ran after => exact absurd turn (first eager)
      | waits eager turn up early ran after => exact absurd turn (first eager)
      | cancelled cancel ran after => exact absurd cancel.symm uncut.1
      | untouched unturned uncut ran after => exact after

theorem up_act (up : ds.isShutDown = false) (step : Step α) (other : step ≠ .shutdown) :
    (ds.act step).isShutDown = false := by
  rw [isShutDown_act, up]
  cases step with
  | shutdown => exact absurd rfl other
  | schedule | cancel | release | advance | turn => rfl

theorem up_run (up : ds.isShutDown = false) {steps : List (Step α)}
    (unstopped : .shutdown ∉ steps) : (ds.run steps).isShutDown = false := by
  induction steps generalizing ds with
  | nil => exact up
  | cons step steps ih =>
      rw [List.mem_cons, not_or] at unstopped
      exact ih (up_act up step (Ne.symm unstopped.1)) unstopped.2

/-- A delay that has begun goes on until its action runs, unless it is cut off. -/
theorem runs_or_held (numbered : ds.Numbered) (up : ds.isShutDown = false) {d : Deadline α}
    (found : ds.find? number = some d) (armed : d.cancelled = false) {due : Nat}
    (begun : d.due = some due) {steps : List (Step α)} (uncut : .cancel number ∉ steps)
    (unstopped : .shutdown ∉ steps) :
    ds.runs number steps ≠ [] ∨ ∃ d', (ds.run steps).find? number = some d' ∧
      d'.cancelled = false ∧ d'.due = some due := by
  induction steps generalizing ds d with
  | nil => exact .inr ⟨d, found, armed, begun⟩
  | cons step steps ih =>
      rw [List.mem_cons, not_or] at uncut unstopped
      have rest {d' : Deadline α} (ran : ds.ran? number step = none)
          (after : (ds.act step).find? number = some d') (armed : d'.cancelled = false)
          (begun : d'.due = some due) :
          ds.runs number (step :: steps) ≠ [] ∨
            ∃ d', (ds.run (step :: steps)).find? number = some d' ∧
              d'.cancelled = false ∧ d'.due = some due := by
        rw [runs_cons, ran, Option.toList_none, List.nil_append]
        exact ih (numbered_act numbered step) (up_act up step (Ne.symm unstopped.1)) after armed
          begun uncut.2 unstopped.2
      cases fate numbered found step with
      | runs eager turn seen due ran after => exact .inl (by simp [runs_cons, ran])
      | ends eager turn down ran after => simp [up] at down
      | waits eager turn up early ran after =>
          exact rest ran after armed (by simp [Deadline.start, begun])
      | cancelled cancel ran after => exact absurd cancel.symm uncut.1
      | untouched unturned kept ran after => exact rest ran after armed begun

/-- Once it is due, a deadline runs in the next turn of its task, unless that sees a shutdown
first. -/
theorem runs_of_due {d : Deadline α} (found : ds.find? number = some d)
    (armed : d.cancelled = false) (passed : d.due.getD (ds.now + d.wait) ≤ ds.now) (eager : Bool)
    (seen : ds.isShutDown = true → eager = true) : ds.runs number [.turn number eager] ≠ [] := by
  have due : (d.start ds.now).isDue ds.now = true := (d.isDue_start ds.now).mpr ⟨armed, passed⟩
  have ran : (d.turn ds.now ds.isShutDown eager).1 = some d.action := by
    rw [Deadline.turn, due]
    cases down : ds.isShutDown with
    | false => simp
    | true => simp [seen down]
  rw [runs_cons, ran?_turn]
  simp [found, ran]

/-! ## What depends on one deadline -/

/-- Two states in which one deadline stands alike. -/
structure Alike (number : Nat) (a b : Deadlines α) : Prop where
  longest : a.longest = b.longest
  now : a.now = b.now
  scheduled : a.scheduled = b.scheduled
  down : a.isShutDown = b.isShutDown
  found : a.find? number = b.find? number

theorem alike_act {a b : Deadlines α} (numberedA : a.Numbered) (numberedB : b.Numbered)
    (alike : Alike number a b) (step : Step α) :
    a.ran? number step = b.ran? number step ∧ Alike number (a.act step) (b.act step) := by
  obtain ⟨longest, now, scheduled, down, found⟩ := alike
  have longest' : (a.act step).longest = (b.act step).longest := by
    rw [longest_act, longest_act, longest]
  have down' : (a.act step).isShutDown = (b.act step).isShutDown := by
    rw [isShutDown_act, isShutDown_act, down]
  cases step with
  | schedule delay action =>
      refine ⟨rfl, longest', ?_, ?_, down', ?_⟩
      · cases up : b.isShutDown <;> simp [act, schedule, down, up, now]
      · cases up : b.isShutDown <;> simp [act, schedule, down, up, scheduled]
      · by_cases own : number = b.scheduled
        · subst own
          cases up : b.isShutDown with
          | false =>
              have left := find?_schedule_scheduled numberedA (down.trans up) delay action
              rw [scheduled, longest] at left
              exact left.trans (find?_schedule_scheduled numberedB up delay action).symm
          | true =>
              have left := (schedule_of_shutDown (down.trans up) delay action).2
              have right := (schedule_of_shutDown up delay action).2
              simpa only [act, find?, left, right] using found
        · have left : (a.schedule delay action).2.find? number = a.find? number :=
            find?_schedule (scheduled ▸ own) delay action
          exact left.trans (found.trans (find?_schedule own delay action).symm)
  | cancel other =>
      refine ⟨rfl, longest', now, scheduled, down', ?_⟩
      rw [act, act, find?_cancel, find?_cancel, found]
  | release other => exact ⟨rfl, longest', now, scheduled, down', found⟩
  | advance nanos => exact ⟨rfl, longest', by simp [act, advance, now], scheduled, down', found⟩
  | shutdown => exact ⟨rfl, longest', now, scheduled, down', found⟩
  | turn other eager =>
      refine ⟨by rw [ran?_turn, ran?_turn, found, now, down], longest', now, scheduled, down', ?_⟩
      rw [act, act, find?_turn numberedA, find?_turn numberedB, found, now, down]

theorem runs_of_alike {a b : Deadlines α} (numberedA : a.Numbered) (numberedB : b.Numbered)
    (alike : Alike number a b) (steps : List (Step α)) :
    a.runs number steps = b.runs number steps := by
  induction steps generalizing a b with
  | nil => rfl
  | cons step steps ih =>
      obtain ⟨ran, next⟩ := alike_act numberedA numberedB alike step
      rw [runs_cons, runs_cons, ran,
        ih (numbered_act numberedA step) (numbered_act numberedB step) next]

/-- A step after which a deadline stands as it stood can be left out. -/
theorem runs_without (numbered : ds.Numbered) {first : List (Step α)} {step : Step α}
    (alike : Alike number ((ds.run first).act step) (ds.run first))
    (ran : (ds.run first).ran? number step = none) (later : List (Step α)) :
    ds.runs number (first ++ step :: later) = ds.runs number (first ++ later) := by
  have settled := numbered_run numbered first
  rw [runs_append, runs_append, runs_cons, ran,
    runs_of_alike (numbered_act settled step) settled alike]
  rfl

theorem alike_cancel {other : Nat} (others : number ≠ other) (ds : Deadlines α) :
    Alike number (ds.act (.cancel other)) ds := by
  refine ⟨rfl, rfl, rfl, rfl, ?_⟩
  rw [act, find?_cancel]
  cases ds.find? number <;> simp [Ne.symm others]

/-! ## The contract -/

theorem numbered_empty (longest : Option Nat) : ({ longest } : Deadlines α).Numbered :=
  ⟨by simp, by simp⟩

section Asked

variable (numbered : ds.Numbered) (delay : Nat) (action : α)
include numbered

theorem given_schedule : (ds.act (.schedule delay action)).Given ds.scheduled := by
  refine ⟨numbered_act numbered _, ?_⟩
  cases up : ds.isShutDown <;> simp [act, schedule, up]

/-- What is held of a deadline that was just scheduled. -/
theorem find?_act_schedule :
    (ds.isShutDown = false ∧ (ds.act (.schedule delay action)).find? ds.scheduled =
        some ⟨ds.scheduled, delay, ds.longest, none, action, false⟩) ∨
      (ds.isShutDown = true ∧ (ds.act (.schedule delay action)).find? ds.scheduled = none) := by
  cases up : ds.isShutDown with
  | false => exact .inl ⟨rfl, find?_schedule_scheduled numbered up delay action⟩
  | true =>
      refine .inr ⟨rfl, ?_⟩
      rw [act, find?, (schedule_of_shutDown up delay action).2]
      exact numbered.find?_scheduled

/-- Until its task gets a turn, the delay of a deadline has not begun. -/
theorem fresh_of_unturned {first : List (Step α)}
    (unturned : ∀ eager, .turn ds.scheduled eager ∉ first) :
    ∀ d, ((ds.act (.schedule delay action)).run first).find? ds.scheduled = some d →
      d.action = action ∧ d.wait = Deadline.sleep ds.longest delay ∧ d.due = none := by
  refine held_run (given_schedule numbered delay action)
    (fun eager _ _ turn => absurd turn (unturned eager)) (fun _ kept => kept) fun d found => ?_
  rcases find?_act_schedule numbered delay action with ⟨-, fresh⟩ | ⟨-, none⟩
  · obtain rfl := Option.some.inj (fresh.symm.trans found)
    exact ⟨rfl, rfl, rfl⟩
  · rw [none] at found
    cases found

/-- The first turn begins the delay. -/
theorem due_of_first_turn {first : List (Step α)}
    (unturned : ∀ eager, .turn ds.scheduled eager ∉ first) (eager : Bool) :
    ∀ d, ((ds.act (.schedule delay action)).run (first ++ [.turn ds.scheduled eager])).find?
        ds.scheduled = some d →
      d.due = some
        (((ds.act (.schedule delay action)).run first).now + Deadline.sleep ds.longest delay) := by
  have asked := numbered_run (numbered_act numbered (.schedule delay action)) first
  have fresh := fresh_of_unturned numbered delay action unturned
  intro d found
  rw [run_append] at found
  generalize (ds.act (.schedule delay action)).run first = start at asked fresh found ⊢
  have turned : (start.turn ds.scheduled eager).2.find? ds.scheduled = some d := found
  rw [find?_turn asked, if_pos rfl] at turned
  obtain ⟨before, held, stays⟩ := Option.bind_eq_some_iff.mp turned
  obtain ⟨-, sameWait, none⟩ := fresh before held
  rcases before.turn_cases start.now start.isShutDown eager with ⟨ran, -⟩ | ⟨ended, -⟩ | ⟨stayed, -⟩
  · simp [ran] at stays
  · simp [ended] at stays
  · rw [stayed] at stays
    rw [← Option.some.inj stays, due_start start.now before none, sameWait]

theorem waits_of_unturned {first : List (Step α)}
    (unturned : ∀ eager, .turn ds.scheduled eager ∉ first) :
    ((ds.act (.schedule delay action)).run first).Waits ds.scheduled action
      (Deadline.sleep ds.longest delay) ((ds.act (.schedule delay action)).run first).now := by
  refine ⟨Nat.le_refl _, fun d found => ?_⟩
  obtain ⟨sameAction, sameWait, fresh⟩ := fresh_of_unturned numbered delay action unturned d found
  exact ⟨sameAction, sameWait, fun due begun => by simp [fresh] at begun⟩

theorem time_of_first_turn {first : List (Step α)}
    (unturned : ∀ eager, .turn ds.scheduled eager ∉ first) (later : List (Step α)) :
    ∀ f ∈ (ds.act (.schedule delay action)).runs ds.scheduled (first ++ later),
      f.action = action ∧
        ((ds.act (.schedule delay action)).run first).now + Deadline.sleep ds.longest delay ≤ f.time := by
  have given := given_schedule numbered delay action
  rw [runs_append, runs_of_unturned given unturned, List.nil_append]
  exact time_of_runs (given.run first) (waits_of_unturned numbered delay action unturned) later

theorem runs_of_cancel {steps : List (Step α)} (cut : .cancel ds.scheduled ∈ steps)
    (later : List (Step α)) :
    ((ds.act (.schedule delay action)).run steps).runs ds.scheduled later = [] := by
  obtain ⟨first, rest, rfl⟩ := List.append_of_mem cut
  have given := (given_schedule numbered delay action).run first
  have settled := given.act (.cancel ds.scheduled)
  rw [run_append]
  exact runs_of_idle (settled.run rest) (idle_run settled (idle_cancel _ ds.scheduled) rest) later

theorem runs_of_shutdown {steps : List (Step α)} (stopped : .shutdown ∈ steps) (eager : Bool)
    (later : List (Step α)) :
    ((ds.act (.schedule delay action)).run (steps ++ [.turn ds.scheduled eager])).runs
      ds.scheduled later = [] := by
  have given := (given_schedule numbered delay action).run steps
  rw [run_append]
  exact runs_of_idle (given.act _)
    (idle_turn_of_shutDown (isShutDown_run_of_mem stopped) ds.scheduled eager) later

/-- When its delay has passed since its first turn, a deadline runs with the next one. -/
theorem runs_once_due (up : ds.isShutDown = false) {first mid : List (Step α)}
    (eager eager' : Bool) (unturned : ∀ eager, .turn ds.scheduled eager ∉ first)
    (uncut : .cancel ds.scheduled ∉ first ++ mid) (unstopped : .shutdown ∉ first ++ mid)
    (passed : ((ds.act (.schedule delay action)).run first).now + Deadline.sleep ds.longest delay ≤
      ((ds.act (.schedule delay action)).run (first ++ .turn ds.scheduled eager :: mid)).now) :
    (ds.act (.schedule delay action)).runs ds.scheduled
      (first ++ .turn ds.scheduled eager :: mid ++ [.turn ds.scheduled eager']) ≠ [] := by
  rw [List.mem_append, not_or] at uncut unstopped
  have asked := numbered_act numbered (.schedule delay action)
  have fresh := find?_schedule_scheduled numbered up delay action
  have held := find?_run_of_unturned asked fresh unturned uncut.1
  have begins := numbered_run asked first
  have up' := up_run (up_act up (.schedule delay action) (by simp)) unstopped.1
  have cut : first ++ .turn ds.scheduled eager :: mid ++ [.turn ds.scheduled eager'] =
      first ++ .turn ds.scheduled eager :: (mid ++ [.turn ds.scheduled eager']) := by simp
  rw [run_append] at passed
  rw [cut, runs_append, runs_cons]
  generalize (ds.act (.schedule delay action)).run first = start at begins held up' passed ⊢
  -- The first turn begins the delay, unless that is over at once.
  have begun := numbered_act begins (.turn ds.scheduled eager)
  have stillUp := up_act up' (.turn ds.scheduled eager) (by simp)
  cases fate begins held (.turn ds.scheduled eager) with
  | runs _ turn seen due ran after => simp [ran]
  | ends _ turn down ran after => simp [up'] at down
  | cancelled cancel ran after => cases cancel
  | untouched unturned uncut ran after => exact absurd rfl (unturned eager)
  | waits _ turn up early ran after =>
      rw [runs_append]
      rcases runs_or_held begun stillUp after rfl (due_start start.now _ rfl) uncut.2 unstopped.2
        with ran | ⟨d, last, armed, due⟩
      · simp [ran]
      · have stays := up_run stillUp unstopped.2
        have := runs_of_due last armed (by rw [due]; exact passed) eager' fun down =>
          absurd (stays.symm.trans down) Bool.false_ne_true
        simp [this]

end Asked

/-- Where no sleep ends early, an action runs in turns of its own task only, once at most and not
before its delay has passed since the first turn of its task. Once it has passed, and neither a
cancel nor a shutdown came before, the action has run with the next turn. What is done with other
deadlines, a handle that is dropped and a second shutdown change nothing of this. -/
theorem contract (longest : Option Nat) (before : List (Step α)) (delay : Nat) (action : α)
    (notEarly : delay ≤ Deadline.sleep longest delay) :
    let ds := ({ longest } : Deadlines α).run before
    let number := ds.scheduled
    let asked := ds.act (.schedule delay action)
    -- Nothing runs inside `schedule`, nor before the task gets a turn,
    ds.firings [.schedule delay action] = [] ∧
    (∀ steps, (∀ eager, .turn number eager ∉ steps) → asked.runs number steps = []) ∧
    -- nor a second time, nor another action, nor too early;
    (∀ steps, (asked.runs number steps).length ≤ 1) ∧
    (∀ steps, ∀ f ∈ asked.runs number steps, f.action = action ∧ ds.now + delay ≤ f.time) ∧
    (∀ first later, (∀ eager, .turn number eager ∉ first) →
      ∀ f ∈ asked.runs number (first ++ later), (asked.run first).now + delay ≤ f.time) ∧
    -- nothing runs after a cancel, nor after a shutdown and one more turn;
    (∀ steps later, .cancel number ∈ steps → (asked.run steps).runs number later = []) ∧
    (∀ steps eager later, .shutdown ∈ steps →
      (asked.run (steps ++ [.turn number eager])).runs number later = []) ∧
    (ds.isShutDown = true →
      (ds.schedule delay action).1 = none ∧ ∀ steps, asked.runs number steps = []) ∧
    -- what is due and not cut off runs.
    (∀ first eager mid eager', ds.isShutDown = false →
      (∀ eager, .turn number eager ∉ first) →
      .cancel number ∉ first ++ mid → .shutdown ∉ first ++ mid →
      (asked.run first).now + delay ≤ (asked.run (first ++ .turn number eager :: mid)).now →
      asked.runs number (first ++ .turn number eager :: mid ++ [.turn number eager']) ≠ []) ∧
    -- No deadline depends on a cancel of another one, a dropped handle or a second shutdown.
    (∀ k other first later, k ≠ other →
      asked.runs k (first ++ .cancel other :: later) = asked.runs k (first ++ later)) ∧
    (∀ k other first later,
      asked.runs k (first ++ .release other :: later) = asked.runs k (first ++ later)) ∧
    (∀ k first later, .shutdown ∈ first →
      asked.runs k (first ++ .shutdown :: later) = asked.runs k (first ++ later)) := by
  intro ds number asked
  have numbered : ds.Numbered := numbered_run (numbered_empty longest) before
  have given : asked.Given number := given_schedule numbered delay action
  have wait : Deadline.sleep ds.longest delay = delay := by
    rw [longest_run]
    exact Nat.le_antisymm (Deadline.sleep_le longest delay) notEarly
  have late (first : List (Step α)) (unturned : ∀ eager, .turn number eager ∉ first)
      (later : List (Step α)) :
      ∀ f ∈ asked.runs number (first ++ later),
        f.action = action ∧ (asked.run first).now + delay ≤ f.time := by
    have := time_of_first_turn numbered delay action unturned later
    rwa [wait] at this
  refine ⟨rfl, fun steps unturned => runs_of_unturned given unturned, runs_length_le_one given,
    fun steps f member => ?_,
    fun first later unturned f member => (late first unturned later f member).2,
    fun steps later cut => runs_of_cancel numbered delay action cut later,
    fun steps eager later stopped => runs_of_shutdown numbered delay action stopped eager later,
    fun down => ⟨(schedule_of_shutDown down delay action).1, fun steps => ?_⟩,
    fun first eager mid eager' up unturned uncut unstopped passed =>
      runs_once_due numbered delay action up eager eager' unturned uncut unstopped
        (wait.symm ▸ passed),
    fun k other first later others => runs_without given.numbered (alike_cancel others _) rfl later,
    fun k other first later => runs_without given.numbered ⟨rfl, rfl, rfl, rfl, rfl⟩ rfl later,
    fun k first later stopped => ?_⟩
  · obtain ⟨same, passed⟩ := late [] (fun _ => List.not_mem_nil) steps f member
    have begun : ds.now ≤ asked.now := now_act_le ds (.schedule delay action)
    exact ⟨same, Nat.le_trans (Nat.add_le_add_right begun delay) passed⟩
  · rcases find?_act_schedule numbered delay action with ⟨up, -⟩ | ⟨-, none⟩
    · rw [up] at down
      cases down
    · exact runs_of_idle given (idle_of_none none) steps
  · have alike : Alike k ((asked.run first).act .shutdown) (asked.run first) :=
      ⟨rfl, rfl, rfl, (isShutDown_shutdown _).trans (isShutDown_run_of_mem stopped).symm, rfl⟩
    exact runs_without given.numbered alike rfl later

/-- The second of two deadlines, on a runtime that sleeps nine nanoseconds at most: it runs five
nanoseconds after its first turn, whatever becomes of the first deadline, and not at all when it
is cancelled. -/
theorem contract_second :
    let ds := ({ longest := some 9 } : Deadlines Nat).run [.schedule 9 10, .turn 0 true, .advance 1]
    let asked := ds.act (.schedule 5 20)
    let mid : List (Step Nat) := [.advance 4, .release 1, .turn 0 false, .cancel 0, .advance 1]
    5 ≤ Deadline.sleep (some 9) 5 ∧
    asked.runs 1 ([.advance 2] ++ .turn 1 false :: mid ++ [.turn 1 true]) ≠ [] ∧
    (∀ f ∈ asked.runs 1 ([.advance 2] ++ .turn 1 false :: mid ++ [.turn 1 true]),
      f.action = 20 ∧ 1 + 5 ≤ f.time) ∧
    (∀ later, (asked.run [.turn 1 false, .advance 4, .cancel 1]).runs 1 later = []) ∧
    (∀ later, (asked.run ([.turn 1 false, .advance 5, .shutdown] ++ [.turn 1 true])).runs 1 later =
      []) := by
  intro ds asked mid
  obtain ⟨-, -, -, early, -, cut, down, -, runs, -⟩ := contract (some 9)
    [.schedule 9 10, .turn 0 true, .advance 1] 5 20 (by decide)
  exact ⟨by decide,
    runs [.advance 2] false mid true (by decide) (by decide) (by decide) (by decide) (by decide),
    early _, fun later => cut [.turn 1 false, .advance 4, .cancel 1] later (by decide),
    fun later => down [.turn 1 false, .advance 5, .shutdown] true later (by decide)⟩

/-- A delay begins with the first turn of its task, so ten milliseconds are not over twenty
milliseconds later if there was no turn. -/
theorem begins_with_first_turn :
    (({} : Deadlines Unit).run [.schedule 10000000 (), .advance 20000000]).poll.1 = [] ∧
    ({} : Deadlines Unit).runs 0 [.schedule 10000000 (), .advance 20000000, .turn 0 false,
      .advance 9999999, .turn 0 false] = [] := by
  decide

end Deadlines

end RoundTrip
