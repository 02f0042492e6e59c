import RoundTrip.Proofs.Initiator

/-!
# Calls that overlap

Several callers may work with one initiator at the same time. A call is a row of steps, and other
calls may come between any two of them (`Crowd.move`), but nothing comes between the parts of one
step. What a step does can depend on what others have done since the step before, and so can the
steps that follow (`Step.perform`). All that is under the lock of the table is one step.

Main result: a call that no other call interrupts does what the event does that it is a part of
(`exists_turns_act`), so that events which happen one after the other are a case of this.
-/

namespace RoundTrip

namespace Initiator

/-- A step of a call. -/
inductive Step
  /-- See whether the table is closed, before a request is made with one of these ids. -/
  | check (draws : List CorrelationId)
  /-- Read the clock for a request. -/
  | stamp (draws : List CorrelationId)
  /-- Enter a request and arm its deadline, unless the table refuses it. -/
  | enter (sentAt : Nat) (id : CorrelationId) (others : List CorrelationId)
  | queue (id : CorrelationId)
  | countSent (size : Nat)
  /-- Count the bytes of a frame, and read its id. -/
  | receive (payload : Bytes)
  | countShort
  /-- Read the clock for a reply. -/
  | stampReply (id : CorrelationId)
  /-- Take an entry out of the table for a reply. -/
  | resolve (id : CorrelationId) (now : Nat)
  | countMatched (nanos : Nat)
  | countViolation
  /-- Take an entry out of the table because its deadline has come. -/
  | expire (id : CorrelationId)
  | countTimedOut
  /-- Take all entries out of the table and close it. -/
  | close
  | cancel (deadline : Option Nat)
  | deliver (settlement : Settlement)
  | shutdown
  | countClosed (failed : Nat)
deriving DecidableEq, Repr

/-- What a step has done. -/
structure Done where
  initiator : Initiator
  /-- The steps with which the call goes on. -/
  next : List Step := []
  entered : List Entry := []
  delivered : List Settlement := []
deriving DecidableEq, Repr

namespace Step

/-- Try the next id for a request. -/
def performStamp (i : Initiator) : List CorrelationId → Done
  | [] => { initiator := i.fail exhausted }
  | id :: others => { initiator := i, next := [enter i.clock id others] }

def performEnter (sentAt : Nat) (id : CorrelationId) (others : List CorrelationId)
    (i : Initiator) : Done :=
  match i.ledger.table.refusal? id with
  | some .closed => { initiator := i.fail .closed }
  | some .duplicate => { initiator := i, next := [stamp others] }
  | none =>
      let (deadline, deadlines) := i.deadlines.schedule i.timeout id
      { initiator := { i with deadlines, ledger := i.ledger.enter id sentAt deadline }
        next := [queue id]
        entered := [⟨id, sentAt, i.measurements.length, deadline⟩] }

def performQueue (id : CorrelationId) (i : Initiator) : Done :=
  if i.outbound.listening then
    let payload := Payload.request id i.uploadSize
    { initiator :=
        { i with outbound := { i.outbound with queued := i.outbound.queued ++ [payload] } }
      next := [countSent payload.length] }
  else { initiator := i }

def performReceive (payload : Bytes) (i : Initiator) : Done where
  initiator := { i with tally := i.tally.frameReceived payload.length }
  next :=
    match CorrelationId.read payload with
    | .error _ => [countShort]
    | .ok id => [stampReply id]

def performResolve (id : CorrelationId) (now : Nat) (i : Initiator) : Done :=
  match i.ledger.table.resolve? id now with
  | none => { initiator := i, next := [countViolation] }
  | some (nanos, settlement, table) =>
      { initiator := { i with ledger := { i.ledger with table } }
        next := [cancel settlement.cancelled, deliver settlement, countMatched nanos] }

def performExpire (id : CorrelationId) (i : Initiator) : Done :=
  match i.ledger.table.expire? id with
  | none => { initiator := i }
  | some (settlement, table) =>
      { initiator := { i with ledger := { i.ledger with table } }
        next := [deliver settlement, countTimedOut] }

def performClose (i : Initiator) : Done :=
  match i.ledger.table.close? with
  | none => { initiator := i }
  | some (settlements, table) =>
      { initiator := { i with ledger := { i.ledger with table } }
        next :=
          settlements.flatMap (fun s => [cancel s.cancelled, deliver s]) ++
            [shutdown, countClosed settlements.length] }

def perform (i : Initiator) : Step → Done
  | check draws =>
      if i.isClosed then { initiator := i.fail .closed }
      else { initiator := i, next := [stamp (draws.take attempts)] }
  | stamp draws => performStamp i draws
  | enter sentAt id others => performEnter sentAt id others i
  | queue id => performQueue id i
  | countSent size => { initiator := { i with tally := i.tally.requestSent size } }
  | receive payload => performReceive payload i
  | countShort => { initiator := { i with tally := i.tally.framingError } }
  | stampReply id => { initiator := i, next := [resolve id i.clock] }
  | resolve id now => performResolve id now i
  | countMatched nanos => { initiator := { i with tally := i.tally.replyMatched nanos } }
  | countViolation => { initiator := { i with tally := i.tally.violation } }
  | expire id => performExpire id i
  | countTimedOut => { initiator := { i with tally := i.tally.timedOut } }
  | close => performClose i
  | cancel deadline => { initiator := { i with deadlines := i.deadlines.cancel? deadline } }
  | deliver settlement =>
      { initiator := { i with ledger := i.ledger.deliver settlement }, delivered := [settlement] }
  | shutdown => { initiator := { i with deadlines := i.deadlines.shutdown } }
  | countClosed failed => { initiator := { i with tally := i.tally.failedOnClose failed } }

end Step

end Initiator

open Initiator (Step Done)

/-- An initiator and the calls on it. -/
structure Crowd where
  initiator : Initiator
  /-- The steps that are left of each call. -/
  calls : List (List Step) := []
  /-- All requests that were ever entered. -/
  entered : List Entry := []
  /-- All outcomes that were ever delivered. -/
  delivered : List Settlement := []
deriving DecidableEq, Repr

/-- What happens next. -/
inductive Turn
  /-- A call begins, or what is no call happens at once. -/
  | begin (event : Event)
  /-- A call makes its next step. -/
  | step (call : Nat)
  /-- The table finds another order for its entries. -/
  | rearrange (entries : List Entry)
deriving DecidableEq, Repr

namespace Crowd

def start (uploadSize timeout clock : Nat) : Crowd where
  initiator := .start uploadSize timeout clock

/-- A call begins with this step. -/
def call (first : Step) (c : Crowd) : Crowd := { c with calls := c.calls ++ [[first]] }

/-- A deadline comes, if it is armed, and its action begins. -/
def fire (number : Nat) (c : Crowd) : Crowd :=
  match c.initiator.deadlines.take number with
  | (none, deadlines) => { c with initiator := { c.initiator with deadlines } }
  | (some id, deadlines) =>
      call (.expire id) { c with initiator := { c.initiator with deadlines } }

def begin (c : Crowd) : Event → Crowd
  | .measure draws => c.call (.check draws)
  | .frame payload => c.call (.receive payload)
  | .fire number => c.fire number
  | .close => c.call .close
  | .advance nanos => { c with initiator := c.initiator.advanceClock nanos }
  | .dropMeasurement slot => { c with initiator := c.initiator.dropMeasurement slot }
  | .takeQueued => { c with initiator := c.initiator.takeQueued.2 }
  | .dropOutbound => { c with initiator := c.initiator.dropOutbound }

def step (call : Nat) (c : Crowd) : Crowd :=
  match c.calls[call]? with
  | none | some [] => c
  | some (first :: rest) =>
      let done := first.perform c.initiator
      { initiator := done.initiator
        calls := c.calls.set call (done.next ++ rest)
        entered := c.entered ++ done.entered
        delivered := c.delivered ++ done.delivered }

def rearrange (entries : List Entry) (c : Crowd) : Crowd :=
  let i := c.initiator
  if entries.Perm i.ledger.table.entries then
    { c with
      initiator := { i with ledger := { i.ledger with table := { i.ledger.table with entries } } } }
  else c

def move (c : Crowd) : Turn → Crowd
  | .begin event => c.begin event
  | .step call => c.step call
  | .rearrange entries => c.rearrange entries

def run (c : Crowd) (turns : List Turn) : Crowd := turns.foldl move c

theorem run_append (c : Crowd) (first later : List Turn) :
    c.run (first ++ later) = (c.run first).run later :=
  List.foldl_append

/-- No call is in progress. -/
def AtRest (c : Crowd) : Prop := ∀ steps ∈ c.calls, steps = []

end Crowd

/-! ## A call that nobody interrupts -/

namespace Initiator

/-- These steps, and those that come of them, are made with nothing in between. -/
inductive Alone : Initiator → List Step → Initiator → Prop
  | done (i : Initiator) : Alone i [] i
  | step {i j : Initiator} {first : Step} {rest : List Step} :
      Alone (first.perform i).initiator ((first.perform i).next ++ rest) j →
        Alone i (first :: rest) j

variable {i : Initiator}

theorem alone_queue (id : CorrelationId) (i : Initiator) : Alone i [.queue id] (i.send id) := by
  refine .step ?_
  rw [Step.perform, Step.performQueue, send]
  split
  · exact .step (.done _)
  · exact .done i

theorem alone_stamp (isOpen : i.isClosed = false) (draws : List CorrelationId) :
    Alone i [.stamp draws]
      (match draws.find? (i.ledger.table.refusal? · = none) with
      | none => i.fail exhausted
      | some id => (i.register id).send id) := by
  induction draws with
  | nil => exact .step (.done _)
  | cons id others ih =>
      refine .step (.step ?_)
      simp only [Step.perform, Step.performStamp, Step.performEnter]
      cases refused : i.ledger.table.refusal? id with
      | none =>
          have found : (id :: others).find? (i.ledger.table.refusal? · = none) = some id := by
            simp [refused]
          rw [found]
          exact alone_queue id (i.register id)
      | some refusal =>
          cases refusal with
          -- Nobody closes the table in between, so it was open when the id was tried.
          | closed =>
              have shut : i.isClosed = true := by
                simpa [Outstanding.refusal?, isClosed] using refused
              rw [isOpen] at shut
              cases shut
          | duplicate => simpa [refused] using ih

theorem alone_measure (draws : List CorrelationId) (i : Initiator) :
    Alone i [.check draws] (i.measure draws) := by
  refine .step ?_
  rw [Step.perform, measure]
  cases isOpen : i.isClosed with
  | true => exact .done _
  | false => exact alone_stamp isOpen (draws.take attempts)

theorem alone_onFrame (payload : Bytes) (i : Initiator) :
    Alone i [.receive payload] (i.onFrame payload).2 := by
  refine .step ?_
  rw [Step.perform, Step.performReceive, onFrame]
  cases CorrelationId.read payload with
  | error fault => exact .step (.done _)
  | ok id =>
      refine .step (.step ?_)
      simp only [Step.perform, Step.performResolve, Ledger.resolve?]
      cases i.ledger.table.resolve? id i.clock with
      | none => exact .step (.done _)
      | some found => exact .step (.step (.step (.done _)))

theorem alone_expire (id : CorrelationId) (i : Initiator) : Alone i [.expire id] (i.expire id) := by
  refine .step ?_
  rw [Step.perform, Step.performExpire, Initiator.expire, Ledger.expire?]
  cases i.ledger.table.expire? id with
  | none => exact .done _
  | some found => exact .step (.step (.done _))

/-- Deadlines are cancelled and outcomes delivered in turn, as if all of one came before the
other. -/
theorem alone_settle {j : Initiator} {rest : List Step} (settlements : List Settlement)
    (left : Alone
      { i with
        ledger := settlements.foldl Ledger.deliver i.ledger
        deadlines := i.deadlines.cancelAll (settlements.map (·.cancelled)) } rest j) :
    Alone i (settlements.flatMap (fun s => [.cancel s.cancelled, .deliver s]) ++ rest) j := by
  induction settlements generalizing i with
  | nil => exact left
  | cons s settlements ih => exact .step (.step (ih left))

theorem alone_onClose (i : Initiator) : Alone i [.close] i.onClose.2 := by
  refine .step ?_
  rw [Step.perform, Step.performClose, onClose, Ledger.close?]
  cases i.ledger.table.close? with
  | none => exact .done _
  | some found =>
      rw [List.append_nil]
      refine alone_settle found.1 (.step (.step ?_))
      simp only [Option.map_some, List.length_map]
      exact .done _

end Initiator

namespace Crowd

open Initiator (Alone)

theorem run_alone {i j : Initiator} {steps : List Step} (alone : Alone i steps j) {c : Crowd}
    (same : c.initiator = i) {k : Nat} (call : c.calls[k]? = some steps) :
    ∃ turns, (c.run turns).initiator = j ∧ (c.run turns).calls = c.calls.set k [] := by
  induction alone generalizing c with
  | done i =>
      obtain ⟨bound, finished⟩ := List.getElem?_eq_some_iff.mp call
      refine ⟨[], same, ?_⟩
      rw [← finished, List.set_getElem_self]
      rfl
  | @step i j first rest alone ih =>
      subst same
      have stepped : c.step k =
          { initiator := (first.perform c.initiator).initiator
            calls := c.calls.set k ((first.perform c.initiator).next ++ rest)
            entered := c.entered ++ (first.perform c.initiator).entered
            delivered := c.delivered ++ (first.perform c.initiator).delivered } := by
        rw [step, call]
      have going : (c.step k).calls[k]? = some ((first.perform c.initiator).next ++ rest) := by
        rw [stepped]
        exact List.getElem?_set_self (List.getElem?_eq_some_iff.mp call).1
      obtain ⟨turns, initiator, calls⟩ := ih (by rw [stepped]) going
      refine ⟨.step k :: turns, initiator, calls.trans ?_⟩
      rw [stepped, List.set_set]

theorem exists_turns_call {c : Crowd} {first : Step} {j : Initiator}
    (alone : Alone c.initiator [first] j) (rest : c.AtRest) :
    ∃ turns, ((c.call first).run turns).initiator = j ∧ ((c.call first).run turns).AtRest := by
  have begun : (c.call first).calls[c.calls.length]? = some [first] := by simp [call]
  obtain ⟨turns, initiator, calls⟩ := run_alone (c := c.call first) alone rfl begun
  refine ⟨turns, initiator, ?_⟩
  intro steps member
  rw [calls, call, List.set_append_right _ _ (Nat.le_refl _)] at member
  simpa [or_imp] using (List.mem_append.mp member).imp_left (rest steps)

/-- Calls that do not overlap do what the events do. -/
theorem exists_turns_act (event : Event) {c : Crowd} (rest : c.AtRest) :
    ∃ turns, (c.run turns).initiator = c.initiator.act event ∧ (c.run turns).AtRest := by
  have called {d : Crowd} {first : Step} {j : Initiator} (begun : c.begin event = d.call first)
      (alone : Alone d.initiator [first] j) (rest : d.AtRest) :
      ∃ turns, (c.run turns).initiator = j ∧ (c.run turns).AtRest := by
    obtain ⟨turns, ended⟩ := exists_turns_call alone rest
    rw [← begun] at ended
    exact ⟨.begin event :: turns, ended⟩
  have at_once (begun : c.begin event = { c with initiator := c.initiator.act event }) :
      ∃ turns, (c.run turns).initiator = c.initiator.act event ∧ (c.run turns).AtRest := by
    refine ⟨[.begin event], ?_⟩
    show (c.begin event).initiator = _ ∧ (c.begin event).AtRest
    rw [begun]
    exact ⟨rfl, rest⟩
  cases event with
  | measure draws => exact called rfl (Initiator.alone_measure draws c.initiator) rest
  | frame payload => exact called rfl (Initiator.alone_onFrame payload c.initiator) rest
  | close => exact called rfl (Initiator.alone_onClose c.initiator) rest
  | advance | dropMeasurement | takeQueued | dropOutbound => exact at_once rfl
  | fire number =>
      cases taken : c.initiator.deadlines.take number with
      | mk action deadlines =>
          let d : Crowd := { c with initiator := { c.initiator with deadlines } }
          cases action with
          | none =>
              refine at_once ?_
              simp only [begin, fire, taken, Initiator.act, Initiator.fire]
          | some id =>
              have begun : c.begin (.fire number) = d.call (.expire id) := by
                simp only [begin, fire, taken, d]
              have same : c.initiator.act (.fire number) = d.initiator.expire id := by
                simp only [Initiator.act, Initiator.fire, taken, d]
              rw [same]
              exact called begun (Initiator.alone_expire id d.initiator) rest

theorem exists_turns_run (events : List Event) {c : Crowd} (rest : c.AtRest) :
    ∃ turns, (c.run turns).initiator = c.initiator.run events ∧ (c.run turns).AtRest := by
  induction events generalizing c with
  | nil => exact ⟨[], rfl, rest⟩
  | cons event events ih =>
      obtain ⟨first, acted, still⟩ := exists_turns_act event rest
      obtain ⟨later, ran, done⟩ := ih still
      refine ⟨first ++ later, ?_, ?_⟩
      · rw [run_append, ran, acted]
        rfl
      · rwa [run_append]

end Crowd

end RoundTrip
