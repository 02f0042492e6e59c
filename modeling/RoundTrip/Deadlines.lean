/-!
# Deadlines

Actions that are to run after a delay. They are numbered in the order in which
they are scheduled, and can be cancelled one by one or all together by a shutdown.
The delay of an action is a sleep of the runtime that begins at the first `poll`
after it was scheduled; an action never runs inside `schedule`.

A sleep lasts as long as it was asked for, unless the runtime has a longest one
(`Deadline.sleep`). That is a property of the runtime, and a parameter here: by default
it is thirty years, after which a delay of sixty has been seen to end.

Beside `poll`, which runs what is due, `take` runs a single action by hand.
-/

namespace RoundTrip

structure Deadline (α : Type) where
  number : Nat
  delay : Nat
  /-- The longest sleep of the runtime that holds it back, if it has one. -/
  longest : Option Nat
  /-- When it is due, once its sleep has begun. -/
  due : Option Nat
  action : α
  cancelled : Bool
deriving DecidableEq, Repr

/-- The nanoseconds of thirty years of 365 days. -/
def Deadline.thirtyYears : Nat := 946080000000000000

structure Deadlines (α : Type) where
  now : Nat := 0
  /-- How many numbers have been given. -/
  scheduled : Nat := 0
  held : List (Deadline α) := []
  shutdowns : Nat := 0
  /-- The longest sleep of the runtime, if it has one. -/
  longest : Option Nat := some Deadline.thirtyYears
deriving DecidableEq, Repr

namespace Deadline

variable {α : Type}

/-- How long a sleep lasts, if none is longer than the longest one. -/
def sleep (longest : Option Nat) (delay : Nat) : Nat := longest.elim delay (min delay)

/-- No sleep is longer than what was asked for. -/
theorem sleep_le (longest : Option Nat) (delay : Nat) : sleep longest delay ≤ delay := by
  cases longest with
  | none => exact Nat.le_refl delay
  | some longest => exact Nat.min_le_left delay longest

def wait (d : Deadline α) : Nat := sleep d.longest d.delay

/-- Begin the sleep, if it has not begun. -/
def start (now : Nat) (d : Deadline α) : Deadline α :=
  { d with due := some (d.due.getD (now + d.wait)) }

def isDue (now : Nat) (d : Deadline α) : Bool := !d.cancelled && d.due.any (· ≤ now)

end Deadline

namespace Deadlines

variable {α : Type}

def isShutDown (ds : Deadlines α) : Bool := 0 < ds.shutdowns

/-- Schedule an action, and give its number. After a shutdown nothing is held, and
there is nothing to cancel. -/
def schedule (delay : Nat) (action : α) (ds : Deadlines α) : Option Nat × Deadlines α :=
  let number := ds.scheduled
  if ds.isShutDown then (none, { ds with scheduled := number + 1 })
  else
    (some number,
      { ds with
        scheduled := number + 1
        held := ds.held ++ [⟨number, delay, ds.longest, none, action, false⟩] })

def cancel (number : Nat) (ds : Deadlines α) : Deadlines α :=
  { ds with
    held := ds.held.map fun d => if d.number = number then { d with cancelled := true } else d }

/-- Cancel a deadline, if there is one to cancel. -/
def cancel? (number : Option Nat) (ds : Deadlines α) : Deadlines α :=
  match number with
  | some n => ds.cancel n
  | none => ds

def advance (nanos : Nat) (ds : Deadlines α) : Deadlines α := { ds with now := ds.now + nanos }

def shutdown (ds : Deadlines α) : Deadlines α := { ds with shutdowns := ds.shutdowns + 1 }

/-- The deadlines whose sleep has not begun. -/
def fresh (ds : Deadlines α) : List (Deadline α) := ds.held.filter (·.due.isNone)

/-- The deadlines that are held and not cancelled. -/
def armed (ds : Deadlines α) : List (Deadline α) := ds.held.filter (!·.cancelled)

/-- Begin the sleeps that have not begun, and hand out the actions that are due.
After a shutdown there are none. -/
def poll (ds : Deadlines α) : List α × Deadlines α :=
  if ds.isShutDown then ([], ds)
  else
    let started := ds.held.map (·.start ds.now)
    ((started.filter (·.isDue ds.now)).map (·.action),
      { ds with held := started.filter (!·.isDue ds.now) })

/-- Take a deadline out, due or not and even after a shutdown, and hand out its
action unless it was cancelled. -/
def take (number : Nat) (ds : Deadlines α) : Option α × Deadlines α :=
  ((ds.armed.find? (·.number = number)).map (·.action),
    { ds with held := ds.held.filter (·.number ≠ number) })

theorem schedule_of_shutDown {ds : Deadlines α} (down : ds.isShutDown = true) (delay : Nat)
    (action : α) :
    (ds.schedule delay action).1 = none ∧ (ds.schedule delay action).2.held = ds.held := by
  simp [schedule, down]

theorem poll_of_shutDown {ds : Deadlines α} (down : ds.isShutDown = true) :
    ds.poll = ([], ds) := by
  simp [poll, down]

theorem isShutDown_shutdown (ds : Deadlines α) : ds.shutdown.isShutDown = true := by
  simp [isShutDown, shutdown]

/-- A sleep that has not begun ends that much later. -/
theorem due_start (now : Nat) (d : Deadline α) (fresh : d.due = none) :
    (d.start now).due = some (now + d.wait) := by
  simp [Deadline.start, fresh]

end Deadlines

end RoundTrip
