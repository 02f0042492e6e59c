import RoundTrip.Proofs.Initiator.Crowd.Consistent

/-!
# A close among overlapping calls

What is left to be done of all calls is one collection of steps, and it does not matter to which
calls they belong (`perm_of_step`). So an initiator stays consistent with what is left and with
what was done, whatever turn comes next (`sound_move`).

Main result: no request slips past a close (`no_request_slips_past_close`), and a close that has
begun is made before the last call is done (`closing_run`).
-/

namespace RoundTrip

open Initiator (Step Consistent SameWork)

namespace Crowd

variable {c : Crowd}

/-- The steps that are left of all calls. -/
def left (c : Crowd) : List Step := c.calls.flatten

def Sound (c : Crowd) : Prop := Consistent c.initiator c.left c.entered c.delivered

/-- A step is one of those that are left, and makes way for those with which its call goes on. -/
theorem perm_of_step {calls : List (List Step)} {k : Nat} {first : Step} {rest : List Step}
    (call : calls[k]? = some (first :: rest)) :
    ∃ others, calls.flatten.Perm (first :: others) ∧
      ∀ next, (calls.set k (next ++ rest)).flatten.Perm (next ++ others) := by
  induction calls generalizing k with
  | nil => cases call
  | cons steps calls ih =>
      cases k with
      | zero =>
          rw [List.getElem?_cons_zero, Option.some.injEq] at call
          subst call
          refine ⟨rest ++ calls.flatten, .refl _, fun next => ?_⟩
          rw [List.set_cons_zero, List.flatten_cons, List.append_assoc]
      | succ k =>
          obtain ⟨others, before, after⟩ := ih (List.getElem?_cons_succ.symm.trans call)
          refine ⟨steps ++ others, ?_, fun next => ?_⟩
          · exact (before.append_left steps).trans List.perm_middle
          · rw [List.set_cons_succ, List.flatten_cons]
            refine ((after next).append_left steps).trans ?_
            rw [← List.append_assoc, ← List.append_assoc]
            exact List.perm_append_comm.append_right others

theorem sound_start (uploadSize timeout clock : Nat) : (start uploadSize timeout clock).Sound :=
  Initiator.consistent_start uploadSize timeout clock

theorem sound_step (sound : c.Sound) (call : Nat) : (c.step call).Sound := by
  rw [step]
  split
  · exact sound
  · exact sound
  · rename_i first rest steps
    obtain ⟨others, before, after⟩ := perm_of_step steps
    have kept := Initiator.keeps c.initiator first others c.entered c.delivered
      (Consistent.alike sound (Initiator.alike_refl _) (Initiator.sameWork_of_perm before))
    exact kept.alike (Initiator.alike_refl _)
      (Initiator.sameWork_of_perm (after (first.perform c.initiator).next).symm)

theorem left_call (first : Step) (c : Crowd) : (c.call first).left = c.left ++ [first] :=
  List.flatten_append

/-- A call may begin at any time. -/
theorem sound_call (sound : c.Sound) {first : Step} (plain : first.isPlain = true) :
    (c.call first).Sound := by
  have work : SameWork ([] ++ c.left) ([first] ++ c.left) :=
    Initiator.sameWork_of_plain rfl (by simpa using plain)
  have begun := Consistent.alike sound (Initiator.alike_refl c.initiator) work
  rw [Sound, left_call]
  exact begun.alike (Initiator.alike_refl _)
    (Initiator.sameWork_of_perm (List.perm_append_singleton _ _).symm)

theorem sound_fire (sound : c.Sound) (number : Nat) : (c.fire number).Sound := by
  have still : Sound { c with
      initiator := { c.initiator with deadlines := (c.initiator.deadlines.take number).2 } } :=
    Consistent.alike sound ⟨rfl, rfl, List.prefix_rfl, rfl⟩ (Initiator.sameWork_of_perm (.refl _))
  rw [fire]
  cases taken : c.initiator.deadlines.take number with
  | mk action deadlines =>
      rw [taken] at still
      cases action with
      | none => exact still
      | some id => exact sound_call still rfl

theorem sound_begin (sound : c.Sound) (event : Event) : (c.begin event).Sound := by
  cases event with
  | measure | frame | close => exact sound_call sound rfl
  | fire number => exact sound_fire sound number
  | dropMeasurement slot => exact Initiator.consistent_dropMeasurement sound slot
  | advance | takeQueued | dropOutbound =>
      exact Consistent.alike sound ⟨rfl, rfl, List.prefix_rfl, rfl⟩
        (Initiator.sameWork_of_perm (.refl _))

theorem sound_move (sound : c.Sound) (turn : Turn) : (c.move turn).Sound := by
  cases turn with
  | begin event => exact sound_begin sound event
  | step call => exact sound_step sound call
  | rearrange entries =>
      rw [move, rearrange]
      split
      · rename_i same
        exact Initiator.consistent_rearrange sound same
      · exact sound

theorem sound_run (sound : c.Sound) (turns : List Turn) : (c.run turns).Sound := by
  induction turns generalizing c with
  | nil => exact sound
  | cons turn turns ih => exact ih (sound_move sound turn)

theorem isClosed_move (closed : c.initiator.isClosed = true) (turn : Turn) :
    (c.move turn).initiator.isClosed = true := by
  cases turn with
  | begin event =>
      cases event with
      | fire number =>
          rw [move, begin, fire]
          cases c.initiator.deadlines.take number with
          | mk action deadlines => cases action <;> exact closed
      | measure | frame | close | advance | dropMeasurement | takeQueued | dropOutbound =>
          exact closed
  | step call =>
      rw [move, step]
      split
      · exact closed
      · exact closed
      · exact Initiator.isClosed_perform closed _
  | rearrange entries =>
      rw [move, rearrange]
      split
      · exact closed
      · exact closed

theorem isClosed_run (closed : c.initiator.isClosed = true) (turns : List Turn) :
    (c.run turns).initiator.isClosed = true := by
  induction turns generalizing c with
  | nil => exact closed
  | cons turn turns ih => exact ih (isClosed_move closed turn)

/-! ## A close that has begun -/

/-- The table is closed, or a call is about to close it. -/
def Closing (c : Crowd) : Prop := c.initiator.isClosed = true ∨ .close ∈ c.left

/-- Beginning something takes no call away. -/
theorem mem_left_begin {step : Step} (member : step ∈ c.left) (event : Event) :
    step ∈ (c.begin event).left := by
  have called (first : Step) : step ∈ (c.call first).left := by
    rw [left_call]
    exact List.mem_append_left _ member
  cases event with
  | measure | frame | close => exact called _
  | fire number =>
      rw [begin, fire]
      cases c.initiator.deadlines.take number with
      | mk action deadlines =>
          cases action with
          | none => exact member
          | some id => exact called (.expire id)
  | advance | dropMeasurement | takeQueued | dropOutbound => exact member

/-- A step is left until it is made, and then the table is closed. -/
theorem closing_step (closing : c.Closing) (call : Nat) : (c.step call).Closing := by
  rcases closing with closed | member
  · exact .inl (isClosed_move closed (.step call))
  · rw [step]
    split
    · exact .inr member
    · exact .inr member
    · rename_i first rest steps
      obtain ⟨others, before, after⟩ := perm_of_step steps
      rcases List.mem_cons.mp (before.mem_iff.mp member) with rfl | later
      · exact .inl (Initiator.isClosed_close c.initiator)
      · exact .inr ((after _).mem_iff.mpr (List.mem_append_right _ later))

theorem closing_move (closing : c.Closing) (turn : Turn) : (c.move turn).Closing := by
  cases turn with
  | begin event =>
      exact closing.imp (fun closed => isClosed_move closed (.begin event))
        fun member => mem_left_begin member event
  | step call => exact closing_step closing call
  | rearrange entries =>
      rw [move, rearrange]
      split <;> exact closing

theorem closing_run (closing : c.Closing) (turns : List Turn) : (c.run turns).Closing := by
  induction turns generalizing c with
  | nil => exact closing
  | cons turn turns ih => exact ih (closing_move closing turn)

theorem closing_of_begun {turns : List Turn} (begun : .begin .close ∈ turns) :
    (c.run turns).Closing := by
  obtain ⟨first, later, rfl⟩ := List.append_of_mem begun
  rw [run_append]
  have called : .close ∈ ((c.run first).call .close).left := by simp [left_call]
  exact closing_run (c := (c.run first).call .close) (.inr called) later

/-! ## No call in progress -/

theorem left_of_atRest (rest : c.AtRest) : c.left = [] :=
  List.flatten_eq_nil_iff.mpr rest

/-- A close that has begun is made before no call is in progress. -/
theorem Closing.isClosed (closing : c.Closing) (rest : c.AtRest) : c.initiator.isClosed = true := by
  refine closing.resolve_right fun member => ?_
  rw [left_of_atRest rest] at member
  cases member

/-- Once the table is closed and all calls are done, each request has its one outcome. -/
theorem delivered_of_atRest (sound : c.Sound) (rest : c.AtRest)
    (closed : c.initiator.isClosed = true) {entry : Entry} (member : entry ∈ c.entered) :
    ∃ s, c.delivered.filter (·.slot = entry.slot) = [s] ∧
      ∃ m, c.initiator.measurements[entry.slot]? = some m ∧ m.Took s.outcome := by
  -- No step is left and the table is empty, so all outcomes were delivered.
  have accounted : (c.entered.map (·.slot)).Perm (c.delivered.map (·.slot)) := by
    have all := sound.accounted
    rwa [left_of_atRest rest, Initiator.unanswered, sound.closed closed] at all
  have distinct := accounted.nodup_iff.mp sound.slots
  obtain ⟨s, given, same⟩ := List.mem_map.mp (accounted.mem_iff.mp (List.mem_map_of_mem member))
  refine ⟨s, ?_, ?_⟩
  · rw [filter_key_eq_find? distinct, (find?_key_eq_some_iff distinct).mpr ⟨given, same⟩]
    rfl
  · rw [← same]
    exact sound.arrived s given

/-- Any number of calls on a fresh initiator, in any order of their steps. Once the table is
closed it has no entry and gets none. Whenever it takes a request in, the deadlines are not shut
down, so that each request that was entered has a deadline that can be cancelled. When no call is
in progress after a close has begun, the table is closed, and each of these requests has got one
outcome, which its measurement has unless it was dropped before. When no call is in progress, the
requests that were entered are those that were answered, timed out, failed by the close or are in
the table. -/
theorem no_request_slips_past_close (uploadSize timeout clock : Nat) (turns : List Turn) :
    let c := (start uploadSize timeout clock).run turns
    let t := c.initiator.tally
    (c.initiator.isClosed = true → ∀ later,
      (c.run later).initiator.isClosed = true ∧
        (c.run later).initiator.ledger.table.entries = []) ∧
    (∀ id, c.initiator.ledger.table.refusal? id = none →
      c.initiator.deadlines.isShutDown = false) ∧
    (∀ entry ∈ c.initiator.ledger.table.entries, entry ∈ c.entered) ∧
    (∀ entry ∈ c.entered, entry.deadline.isSome = true) ∧
    (c.entered.map (·.slot)).Nodup ∧
    (c.AtRest →
      (.begin .close ∈ turns → c.initiator.isClosed = true) ∧
      (c.initiator.isClosed = true → ∀ entry ∈ c.entered,
        ∃ s, c.delivered.filter (·.slot = entry.slot) = [s] ∧
          ∃ m, c.initiator.measurements[entry.slot]? = some m ∧ m.Took s.outcome) ∧
      UInt64.ofNat c.entered.length =
        t.repliesReceived + t.timeouts + t.closedFailures +
          UInt64.ofNat c.initiator.pendingCount) := by
  intro c t
  have sound : c.Sound := sound_run (sound_start uploadSize timeout clock) turns
  refine ⟨?_, ?_, sound.listed, sound.armed, sound.slots,
    fun rest => ⟨fun begun => (closing_of_begun begun).isClosed rest, ?_, ?_⟩⟩
  · intro closed later
    have still := isClosed_run closed later
    exact ⟨still, (sound_run sound later).closed still⟩
  · intro id free
    exact (sound.up (Outstanding.refusal?_eq_none_iff.mp free).1).1
  · exact fun closed entry member => delivered_of_atRest sound rest closed member
  · have counted := sound.counted
    rwa [left_of_atRest rest] at counted

/-- A request is entered while a close is in progress, and the close fails it before its payload is
queued. -/
theorem no_request_slips_past_close_overlapping :
    let turns : List Turn := [.begin (.measure [7]), .step 0, .step 0, .begin .close, .step 0,
      .step 1, .step 1, .step 0, .step 1, .step 1, .step 0, .step 1]
    let c := (start 4 5 100).run turns
    c.entered = [⟨7, 100, 0, some 0⟩] ∧ c.calls = [[], []] ∧
    c.initiator.isClosed = true ∧
    (∃ s, c.delivered.filter (·.slot = 0) = [s] ∧
      ∃ m, c.initiator.measurements[0]? = some m ∧ m.Took s.outcome) ∧
    c.initiator.measurements = [⟨some 7, .settled (.failed .closed), true⟩] ∧
    (1 : UInt64) = c.initiator.tally.repliesReceived + c.initiator.tally.timeouts +
      c.initiator.tally.closedFailures + UInt64.ofNat c.initiator.pendingCount := by
  intro turns c
  have entered : c.entered = [⟨7, 100, 0, some 0⟩] := by decide
  have calls : c.calls = [[], []] := by decide
  have rest : c.AtRest := by
    intro steps member
    rw [calls] at member
    simpa using member
  obtain ⟨-, -, -, -, -, ended⟩ := no_request_slips_past_close 4 5 100 turns
  obtain ⟨closes, settled, counted⟩ := ended rest
  have closed := closes (by decide)
  have member : ⟨7, 100, 0, some 0⟩ ∈ c.entered := by
    rw [entered]
    exact List.mem_singleton_self _
  refine ⟨entered, calls, closed, settled closed _ member, by decide, ?_⟩
  rw [← counted, entered]
  rfl

/-- A request that was made before the close but not entered in time is refused. -/
example :
    let c := (start 4 5 100).run [.begin (.measure [7]), .step 0, .begin .close, .step 1, .step 0,
      .step 0, .step 1, .step 1]
    c.calls = [[], []] ∧ c.entered = [] ∧ c.initiator.measurements = [.failed .closed] := by
  decide

end Crowd

end RoundTrip
