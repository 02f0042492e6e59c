import RoundTrip.Proofs.Initiator.Crowd

/-!
# What every step of a call keeps

A request that was entered is in the table, or a step is left that delivers its outcome, or its
outcome was delivered: one of these, and once (`Consistent.accounted`). Its end was counted, or a
step is left that counts it, or it is in the table (`Consistent.counted`). The table is closed
before the deadlines are shut down (`Consistent.up`).

Main result: each step keeps all this, whatever calls the other steps belong to (`keeps`).
-/

namespace RoundTrip

/-- The caller has the outcome, unless he had dropped the measurement before it came. -/
def Measurement.Took (outcome : Outcome) (m : Measurement) : Prop :=
  m.progress = .settled outcome ∨ m.progress = .dropped ∧ m.held = false

theorem Measurement.took_deliver {id : CorrelationId} {m : Measurement} (awaits : m.Awaits id)
    (outcome : Outcome) : (m.deliver outcome).Took outcome := by
  obtain ⟨-, progress⟩ := awaits
  simp only [Took, deliver, progress]
  cases m.held
  · exact .inr ⟨rfl, rfl⟩
  · exact .inl rfl

theorem Measurement.took_drop {outcome : Outcome} {m : Measurement} (took : m.Took outcome) :
    m.drop.Took outcome := by
  rcases took with settled | ⟨dropped, -⟩
  · refine .inl ?_
    rw [drop, settled]
    rfl
  · refine .inr ⟨?_, rfl⟩
    rw [drop, dropped]
    rfl

/-- How many requests are counted as ended. -/
def Tally.ended (t : Tally) : UInt64 := t.repliesReceived + t.timeouts + t.closedFailures

namespace Tally

theorem ended_replyMatched (nanos : Nat) (t : Tally) :
    (t.replyMatched nanos).ended = t.ended + 1 := by
  simp only [ended, replyMatched]
  ac_rfl

theorem ended_timedOut (t : Tally) : t.timedOut.ended = t.ended + 1 := by
  simp only [ended, timedOut]
  ac_rfl

theorem ended_failedOnClose (failed : Nat) (t : Tally) :
    (t.failedOnClose failed).ended = t.ended + UInt64.ofNat failed :=
  (UInt64.add_assoc _ _ _).symm

end Tally

namespace Initiator

namespace Step

/-- What a step delivers. -/
def settlement? : Step → Option Settlement
  | deliver settlement => some settlement
  | check _ | stamp _ | enter _ _ _ | queue _ | countSent _ | receive _ | countShort
  | stampReply _ | resolve _ _ | countMatched _ | countViolation | expire _ | countTimedOut
  | close | cancel _ | shutdown | countClosed _ => none

/-- How many requests a step counts as ended. -/
def ends : Step → Nat
  | countMatched _ | countTimedOut => 1
  | countClosed failed => failed
  | check _ | stamp _ | enter _ _ _ | queue _ | countSent _ | receive _ | countShort
  | stampReply _ | resolve _ _ | countViolation | expire _ | close | cancel _ | deliver _
  | shutdown => 0

end Step

/-- What is still to be delivered. -/
def undelivered (left : List Step) : List Settlement := left.filterMap (·.settlement?)

/-- How many ends are still to be counted. -/
def uncounted (left : List Step) : Nat := (left.map (·.ends)).sum

/-- The measurements for which no outcome was delivered yet. -/
def unanswered (i : Initiator) (left : List Step) : List Nat :=
  i.ledger.table.entries.map (·.slot) ++ (undelivered left).map (·.slot)

/-- All ends, those that are still to be counted and those that are still to come included. -/
def ends (i : Initiator) (left : List Step) : UInt64 :=
  i.tally.ended + UInt64.ofNat (i.pendingCount + uncounted left)

/-- How an initiator fits the steps that are left to be made, the requests that were ever entered
and the outcomes that were ever delivered. -/
structure Consistent (i : Initiator) (left : List Step) (entered : List Entry)
    (delivered : List Settlement) : Prop where
  distinct : (i.ledger.table.entries.map (·.id)).Nodup
  closed : i.isClosed = true → i.ledger.table.entries = []
  up : i.isClosed = false → i.deadlines.isShutDown = false ∧ .shutdown ∉ left
  listed : ∀ entry ∈ i.ledger.table.entries, entry ∈ entered
  armed : ∀ entry ∈ entered, entry.deadline.isSome = true
  slots : (entered.map (·.slot)).Nodup
  below : ∀ entry ∈ entered, entry.slot < i.measurements.length
  accounted : (entered.map (·.slot)).Perm (i.unanswered left ++ delivered.map (·.slot))
  awaited : ∀ slot ∈ i.unanswered left, ∃ m id, i.measurements[slot]? = some m ∧ m.Awaits id
  arrived : ∀ s ∈ delivered, ∃ m, i.measurements[s.slot]? = some m ∧ m.Took s.outcome
  counted : UInt64.ofNat entered.length = i.ends left

variable {i j : Initiator} {left next : List Step} {entered : List Entry}
  {delivered : List Settlement}

theorem consistent_start (uploadSize timeout clock : Nat) :
    Consistent (start uploadSize timeout clock) [] [] [] := by
  constructor <;> simp [start, unanswered, undelivered, isClosed, Deadlines.isShutDown]
  rfl

theorem getElem?_of_prefix {ms longer : List Measurement} (grown : ms <+: longer) {slot : Nat}
    {m : Measurement} (present : ms[slot]? = some m) : longer[slot]? = some m := by
  obtain ⟨more, rfl⟩ := grown
  rw [List.getElem?_append_left (List.getElem?_eq_some_iff.mp present).1, present]

/-- Entries may leave the table, as long as their outcomes are left to be delivered and their ends
to be counted. -/
theorem Consistent.moved (consistent : Consistent i left entered delivered)
    (distinct : (j.ledger.table.entries.map (·.id)).Nodup)
    (closed : j.isClosed = true → j.ledger.table.entries = [])
    (up : j.isClosed = false → j.deadlines.isShutDown = false ∧ .shutdown ∉ next)
    (fewer : j.ledger.table.entries ⊆ i.ledger.table.entries)
    (grown : i.measurements <+: j.measurements)
    (unanswered : (j.unanswered next).Perm (i.unanswered left))
    (ends : j.ends next = i.ends left) : Consistent j next entered delivered where
  distinct := distinct
  closed := closed
  up := up
  listed entry member := consistent.listed entry (fewer member)
  armed := consistent.armed
  slots := consistent.slots
  below entry member := Nat.lt_of_lt_of_le (consistent.below entry member) grown.length_le
  accounted := consistent.accounted.trans (unanswered.symm.append_right _)
  awaited slot member := by
    obtain ⟨m, id, present, awaits⟩ := consistent.awaited slot (unanswered.mem_iff.mp member)
    exact ⟨m, id, getElem?_of_prefix grown present, awaits⟩
  arrived s member := by
    obtain ⟨m, present, took⟩ := consistent.arrived s member
    exact ⟨m, getElem?_of_prefix grown present, took⟩
  counted := consistent.counted.trans ends.symm

/-- As long as the table is open, no step is left that shuts the deadlines down. -/
theorem Consistent.up_of_cons {first : Step} {others : List Step}
    (consistent : Consistent i (first :: others) entered delivered) (isOpen : i.isClosed = false) :
    i.deadlines.isShutDown = false ∧ .shutdown ∉ others := by
  obtain ⟨up, notDown⟩ := consistent.up isOpen
  exact ⟨up, fun down => notDown (List.mem_cons_of_mem _ down)⟩

/-- What is left of an initiator by a step that settles nothing. -/
structure Alike (i j : Initiator) : Prop where
  table : j.ledger.table = i.ledger.table
  shutDown : j.deadlines.isShutDown = i.deadlines.isShutDown
  grown : i.measurements <+: j.measurements
  ended : j.tally.ended = i.tally.ended

/-- The steps that are left settle the same, and are as many to shut the deadlines down. -/
structure SameWork (left next : List Step) : Prop where
  undelivered : (undelivered next).Perm (undelivered left)
  uncounted : uncounted next = uncounted left
  shutdown : .shutdown ∈ next → .shutdown ∈ left

theorem Consistent.alike (consistent : Consistent i left entered delivered) (alike : i.Alike j)
    (work : SameWork left next) : Consistent j next entered delivered := by
  have closed : j.isClosed = i.isClosed := congrArg Outstanding.closed alike.table
  have pending : j.pendingCount = i.pendingCount := congrArg Outstanding.count alike.table
  apply consistent.moved
  · rw [alike.table]
    exact consistent.distinct
  · rw [alike.table, closed]
    exact consistent.closed
  · rw [alike.shutDown, closed]
    intro isOpen
    obtain ⟨up, none⟩ := consistent.up isOpen
    exact ⟨up, fun member => none (work.shutdown member)⟩
  · rw [alike.table]
    exact List.Subset.refl _
  · exact alike.grown
  · rw [unanswered, unanswered, alike.table]
    exact (work.undelivered.map _).append_left _
  · rw [ends, ends, alike.ended, pending, work.uncounted]

/-! ## Steps that settle nothing -/

/-- A step that neither delivers nor counts an end nor shuts the deadlines down. -/
def Step.isPlain : Step → Bool
  | check _ | stamp _ | enter _ _ _ | queue _ | countSent _ | receive _ | countShort
  | stampReply _ | resolve _ _ | countViolation | expire _ | close | cancel _ => true
  | countMatched _ | countTimedOut | deliver _ | shutdown | countClosed _ => false

theorem Step.work_of_plain {step : Step} (plain : step.isPlain = true) :
    step.settlement? = none ∧ step.ends = 0 ∧ step ≠ .shutdown := by
  cases step with
  | countMatched | countTimedOut | deliver | shutdown | countClosed => cases plain
  | check | stamp | enter | queue | countSent | receive | countShort | stampReply | resolve
  | countViolation | expire | close | cancel => exact ⟨rfl, rfl, Step.noConfusion⟩

variable {first : Step} {others : List Step}

theorem undelivered_cons (quiet : first.settlement? = none) :
    undelivered (first :: others) = undelivered others :=
  List.filterMap_cons_none quiet

theorem undelivered_append (first later : List Step) :
    undelivered (first ++ later) = undelivered first ++ undelivered later :=
  List.filterMap_append

theorem uncounted_cons (first : Step) (others : List Step) :
    uncounted (first :: others) = first.ends + uncounted others :=
  List.sum_cons

theorem uncounted_append (first later : List Step) :
    uncounted (first ++ later) = uncounted first + uncounted later := by
  simp [uncounted]

theorem work_of_plain {steps : List Step} (plain : steps.all (·.isPlain) = true) :
    undelivered steps = [] ∧ uncounted steps = 0 ∧ .shutdown ∉ steps := by
  induction steps with
  | nil => exact ⟨rfl, rfl, List.not_mem_nil⟩
  | cons step steps ih =>
      rw [List.all_cons, Bool.and_eq_true] at plain
      obtain ⟨settlement, ends, notDown⟩ := Step.work_of_plain plain.1
      obtain ⟨undelivered, uncounted, up⟩ := ih plain.2
      refine ⟨(undelivered_cons settlement).trans undelivered, ?_, ?_⟩
      · rw [uncounted_cons, ends, uncounted]
      · exact List.not_mem_cons_of_ne_of_not_mem notDown.symm up

theorem sameWork_of_plain {before after : List Step} (plain : before.all (·.isPlain) = true)
    (also : after.all (·.isPlain) = true) : SameWork (before ++ others) (after ++ others) := by
  obtain ⟨undelivered, uncounted, -⟩ := work_of_plain plain
  obtain ⟨undelivered', uncounted', up⟩ := work_of_plain also
  constructor
  · rw [undelivered_append, undelivered_append, undelivered, undelivered']
  · rw [uncounted_append, uncounted_append, uncounted, uncounted']
  · intro member
    exact List.mem_append_right _ ((List.mem_append.mp member).resolve_left up)

theorem alike_refl (i : Initiator) : i.Alike i := ⟨rfl, rfl, List.prefix_rfl, rfl⟩

theorem sameWork_of_perm (same : left.Perm next) : SameWork left next where
  undelivered := (same.filterMap _).symm
  uncounted := (same.map _).sum_nat.symm
  shutdown := same.mem_iff.mpr

/-- A step keeps the initiator, the steps that are left and the history in accord. -/
def Keeps (i : Initiator) (first : Step) : Prop :=
  ∀ (others : List Step) (entered : List Entry) (delivered : List Settlement),
    Consistent i (first :: others) entered delivered →
      Consistent (first.perform i).initiator ((first.perform i).next ++ others)
        (entered ++ (first.perform i).entered) (delivered ++ (first.perform i).delivered)

/-- What a step has done that settled nothing. -/
structure Passive (i : Initiator) (done : Done) : Prop where
  alike : i.Alike done.initiator
  plain : done.next.all (·.isPlain) = true
  entered : done.entered = []
  delivered : done.delivered = []

theorem passive_fail (fault : Fault) (i : Initiator) : i.Passive { initiator := i.fail fault } :=
  ⟨⟨rfl, rfl, List.prefix_append _ _, rfl⟩, rfl, rfl, rfl⟩

theorem passive_next (plain : next.all (·.isPlain) = true) : i.Passive { initiator := i, next } :=
  ⟨alike_refl i, plain, rfl, rfl⟩

theorem keeps_of_passive (plain : first.isPlain = true) (passive : i.Passive (first.perform i)) :
    Keeps i first := by
  intro others entered delivered consistent
  rw [passive.entered, passive.delivered, List.append_nil, List.append_nil]
  have before : [first].all (·.isPlain) = true := by simpa using plain
  exact consistent.alike passive.alike (sameWork_of_plain before passive.plain)

theorem unanswered_of_plain (plain : first.isPlain = true) :
    i.unanswered (first :: others) = i.unanswered others := by
  rw [unanswered, unanswered, undelivered_cons (Step.work_of_plain plain).1]

theorem ends_of_plain (plain : first.isPlain = true) :
    i.ends (first :: others) = i.ends others := by
  rw [ends, ends, uncounted_cons, (Step.work_of_plain plain).2.1, Nat.zero_add]

theorem ends_of_total (ended : j.tally.ended = i.tally.ended)
    (total : j.pendingCount + uncounted next = i.pendingCount + uncounted left) :
    j.ends next = i.ends left := by
  rw [ends, ends, ended, total]

/-! ## Entering -/

/-- What is entered has an armed deadline, for the deadlines are not shut down. -/
theorem consistent_enter {sentAt : Nat} {id : CorrelationId} {draws : List CorrelationId}
    (consistent : Consistent i (.enter sentAt id draws :: others) entered delivered)
    (free : i.ledger.table.refusal? id = none) {deadline : Option Nat}
    {deadlines : Deadlines CorrelationId}
    (scheduled : i.deadlines.schedule i.timeout id = (deadline, deadlines)) :
    Consistent { i with deadlines, ledger := i.ledger.enter id sentAt deadline }
      (.queue id :: others) (entered ++ [⟨id, sentAt, i.measurements.length, deadline⟩])
      delivered := by
  obtain ⟨isOpen, unused⟩ := Outstanding.refusal?_eq_none_iff.mp free
  obtain ⟨up, notDown⟩ := consistent.up_of_cons isOpen
  rw [Deadlines.schedule, if_neg (ne_true_of_eq_false up), Prod.mk.injEq] at scheduled
  obtain ⟨rfl, rfl⟩ := scheduled
  have grown : i.measurements <+: i.measurements ++ [.waiting id] := List.prefix_append _ _
  have before : i.unanswered (.enter sentAt id draws :: others) = i.unanswered others :=
    unanswered_of_plain rfl
  constructor
  · exact nodup_map_concat consistent.distinct unused
  · intro closed
    exact absurd (isOpen.symm.trans closed) Bool.false_ne_true
  · intro _
    refine ⟨up, ?_⟩
    simpa using notDown
  · intro entry member
    exact (List.mem_append.mp member).elim
      (fun old => List.mem_append_left _ (consistent.listed entry old)) (List.mem_append_right _)
  · intro entry member
    rcases List.mem_append.mp member with old | own
    · exact consistent.armed entry old
    · rw [List.mem_singleton.mp own]
      rfl
  · refine nodup_map_concat consistent.slots ?_
    exact fun entry member => Nat.ne_of_lt (consistent.below entry member)
  · intro entry member
    rw [measurements, Ledger.enter, List.length_append]
    rcases List.mem_append.mp member with old | own
    · exact Nat.lt_succ_of_lt (consistent.below entry old)
    · rw [List.mem_singleton.mp own]
      exact Nat.lt_succ_self _
  -- The new measurement is the last one of those that were entered and of those in the table.
  · rw [List.map_append, unanswered_of_plain rfl]
    refine (List.perm_append_singleton _ _).trans ((consistent.accounted.cons _).trans ?_)
    rw [before]
    simpa [unanswered, Ledger.enter, Outstanding.insert, measurements] using List.perm_middle.symm
  · intro slot member
    have old_or_own : slot ∈ i.unanswered others ∨ slot = i.measurements.length := by
      rw [unanswered_of_plain rfl] at member
      simp only [unanswered, Ledger.enter, Outstanding.insert, List.map_append, List.map_cons,
        List.map_nil, List.mem_append, List.mem_singleton, measurements] at member ⊢
      exact or_right_comm.mp member
    rcases old_or_own with old | rfl
    · obtain ⟨m, id, present, awaits⟩ :=
        consistent.awaited slot (before ▸ old)
      exact ⟨m, id, getElem?_of_prefix grown present, awaits⟩
    · exact ⟨.waiting id, id, Ledger.getElem?_append_one.mpr (.inr ⟨rfl, rfl⟩), rfl, rfl⟩
  · intro s member
    obtain ⟨m, present, took⟩ := consistent.arrived s member
    exact ⟨m, getElem?_of_prefix grown present, took⟩
  · let table := (i.ledger.enter id sentAt (some i.deadlines.scheduled)).table
    have more : table.count = i.pendingCount + 1 := List.length_append
    rw [List.length_append, UInt64.ofNat_add, consistent.counted, ends_of_plain rfl,
      ends_of_plain rfl]
    show i.ends others + UInt64.ofNat 1 =
      i.tally.ended + UInt64.ofNat (table.count + uncounted others)
    rw [ends, more, Nat.add_right_comm, UInt64.ofNat_add (i.pendingCount + uncounted others),
      UInt64.add_assoc]

/-! ## Settling -/

/-- An entry is struck out of the table, and the call goes on to deliver its outcome and to count
its end. -/
theorem consistent_strike (consistent : Consistent i (first :: others) entered delivered)
    (plain : first.isPlain = true) {entry : Entry} (member : entry ∈ i.ledger.table.entries)
    {settlement : Settlement} (slot : settlement.slot = entry.slot)
    (owed : undelivered next = [settlement]) (counts : uncounted next = 1)
    (up : .shutdown ∉ next) :
    Consistent { i with ledger := { i.ledger with table := i.ledger.table.erase entry.id } }
      (next ++ others) entered delivered := by
  have entries := Outstanding.perm_erase consistent.distinct member
  apply consistent.moved
  · exact consistent.distinct.sublist (List.filter_sublist.map _)
  · intro closed
    exact absurd (consistent.closed closed ▸ member) List.not_mem_nil
  · intro isOpen
    obtain ⟨still, notDown⟩ := consistent.up_of_cons isOpen
    exact ⟨still, fun down => notDown ((List.mem_append.mp down).resolve_left up)⟩
  · exact List.filter_subset_self _
  · exact List.prefix_rfl
  · rw [unanswered_of_plain plain, unanswered, undelivered_append, owed, List.singleton_append,
      List.map_cons, slot]
    exact List.perm_middle.trans ((entries.map _).symm.append_right _)
  · have fewer : i.pendingCount = (i.ledger.table.erase entry.id).count + 1 := entries.length_eq
    rw [ends_of_plain plain]
    apply ends_of_total
    · rfl
    · show (i.ledger.table.erase entry.id).count + uncounted (next ++ others) = _
      rw [uncounted_append, counts, fewer]
      omega

/-- All entries are taken out of the table, and it is closed. -/
theorem consistent_close (consistent : Consistent i (first :: others) entered delivered)
    (plain : first.isPlain = true) {settlements : List Settlement}
    (slots : settlements.map (·.slot) = i.ledger.table.entries.map (·.slot))
    (owed : undelivered next = settlements) (counts : uncounted next = settlements.length) :
    Consistent { i with ledger := { i.ledger with table := ⟨true, []⟩ } } (next ++ others) entered
      delivered := by
  apply consistent.moved
  · exact List.nodup_nil
  · exact fun _ => rfl
  · exact fun isOpen => absurd isOpen.symm Bool.false_ne_true
  · exact List.nil_subset _
  · exact List.prefix_rfl
  · rw [unanswered_of_plain plain, unanswered, undelivered_append, owed, List.map_append, slots]
    exact .refl _
  · have all : settlements.length = i.pendingCount := by
      simpa [pendingCount, Outstanding.count] using congrArg List.length slots
    rw [ends_of_plain plain]
    apply ends_of_total
    · rfl
    · rw [uncounted_append, counts, all]
      exact Nat.zero_add _

/-- An outcome is delivered to a measurement that has none. -/
theorem consistent_deliver {settlement : Settlement}
    (consistent : Consistent i (.deliver settlement :: others) entered delivered) :
    Consistent { i with ledger := i.ledger.deliver settlement } others entered
      (delivered ++ [settlement]) := by
  -- The measurement moves from those without an outcome to those with one, and is named once.
  have less : (i.unanswered (.deliver settlement :: others)).Perm
      (settlement.slot :: i.unanswered others) := List.perm_middle
  have moved : (i.unanswered (.deliver settlement :: others) ++ delivered.map (·.slot)).Perm
      (settlement.slot :: (i.unanswered others ++ delivered.map (·.slot))) :=
    less.append_right _
  have distinct := (consistent.accounted.trans moved).nodup_iff.mp consistent.slots
  obtain ⟨own, -⟩ := List.nodup_cons.mp distinct
  rw [List.mem_append, not_or] at own
  have kept {slot : Nat} (other : slot ≠ settlement.slot) :
      (i.ledger.deliver settlement).measurements[slot]? = i.measurements[slot]? :=
    List.getElem?_modify_ne _ _ other.symm
  constructor
  · exact consistent.distinct
  · exact consistent.closed
  · exact consistent.up_of_cons
  · exact consistent.listed
  · exact consistent.armed
  · exact consistent.slots
  · intro entry member
    rw [measurements, Ledger.deliver, List.length_modify]
    exact consistent.below entry member
  · refine (consistent.accounted.trans moved).trans ?_
    rw [List.map_append, ← List.append_assoc]
    exact (List.perm_append_singleton _ _).symm
  · intro slot member
    have other : slot ≠ settlement.slot := fun same => own.1 (same ▸ member)
    rw [measurements, kept other]
    exact consistent.awaited slot (less.mem_iff.mpr (List.mem_cons_of_mem _ member))
  · intro s member
    rcases List.mem_append.mp member with old | new
    · have other : s.slot ≠ settlement.slot := fun same =>
        own.2 (same ▸ List.mem_map_of_mem old)
      rw [measurements, kept other]
      exact consistent.arrived s old
    · rw [List.mem_singleton.mp new]
      obtain ⟨m, id, present, awaits⟩ :=
        consistent.awaited settlement.slot (less.mem_iff.mpr List.mem_cons_self)
      refine ⟨m.deliver settlement.outcome, ?_, Measurement.took_deliver awaits _⟩
      rw [measurements, Ledger.deliver, List.getElem?_modify_eq, ← measurements, present]
      rfl
  · refine consistent.counted.trans ?_
    symm
    apply ends_of_total
    · rfl
    · exact congrArg (i.pendingCount + ·) (Nat.zero_add _).symm

/-- Ends are counted. -/
theorem consistent_count (consistent : Consistent i (first :: others) entered delivered)
    (quiet : first.settlement? = none) {tally : Tally}
    (ended : tally.ended = i.tally.ended + UInt64.ofNat first.ends) :
    Consistent { i with tally } others entered delivered := by
  apply consistent.moved
  · exact consistent.distinct
  · exact consistent.closed
  · exact consistent.up_of_cons
  · exact List.Subset.refl _
  · exact List.prefix_rfl
  · rw [unanswered, unanswered, undelivered_cons quiet]
  · show tally.ended + UInt64.ofNat (i.pendingCount + uncounted others) =
      i.tally.ended + UInt64.ofNat (i.pendingCount + (first.ends + uncounted others))
    rw [ended, Nat.add_left_comm, UInt64.ofNat_add first.ends, UInt64.add_assoc]

theorem keeps_of_count {tally : Tally}
    (performed : first.perform i = { initiator := { i with tally } })
    (quiet : first.settlement? = none)
    (ended : tally.ended = i.tally.ended + UInt64.ofNat first.ends) : Keeps i first := by
  intro others entered delivered consistent
  rw [performed, List.append_nil, List.append_nil]
  exact consistent_count consistent quiet ended

/-- The deadlines are shut down, which happens to a closed table only. -/
theorem consistent_shutdown (consistent : Consistent i (.shutdown :: others) entered delivered) :
    Consistent { i with deadlines := i.deadlines.shutdown } others entered delivered := by
  apply consistent.moved
  · exact consistent.distinct
  · exact consistent.closed
  · intro isOpen
    exact absurd List.mem_cons_self (consistent.up isOpen).2
  · exact List.Subset.refl _
  · exact List.prefix_rfl
  · exact .refl _
  · apply ends_of_total
    · rfl
    · exact congrArg (i.pendingCount + ·) (Nat.zero_add _).symm

theorem keeps_enter (sentAt : Nat) (id : CorrelationId) (draws : List CorrelationId)
    (i : Initiator) : Keeps i (.enter sentAt id draws) := by
  cases refused : i.ledger.table.refusal? id with
  | none =>
      intro others entered delivered consistent
      rw [Step.perform, Step.performEnter, refused, List.append_nil]
      exact consistent_enter consistent refused rfl
  | some refusal =>
      refine keeps_of_passive rfl ?_
      rw [Step.perform, Step.performEnter, refused]
      cases refusal with
      | closed => exact passive_fail _ i
      | duplicate => exact passive_next rfl

theorem keeps_resolve (id : CorrelationId) (now : Nat) (i : Initiator) :
    Keeps i (.resolve id now) := by
  cases found : i.ledger.table.find? id with
  | none =>
      refine keeps_of_passive rfl ?_
      rw [Step.perform, Step.performResolve, Outstanding.resolve?, found]
      exact passive_next rfl
  | some entry =>
      obtain ⟨member, rfl⟩ := Outstanding.find?_some found
      intro others entered delivered consistent
      rw [Step.perform, Step.performResolve, Outstanding.resolve?, found, Option.map_some,
        List.append_nil, List.append_nil]
      exact consistent_strike consistent rfl member rfl rfl rfl (by simp)

theorem keeps_expire (id : CorrelationId) (i : Initiator) : Keeps i (.expire id) := by
  cases found : i.ledger.table.find? id with
  | none =>
      refine keeps_of_passive rfl ?_
      rw [Step.perform, Step.performExpire, Outstanding.expire?, found]
      exact passive_next rfl
  | some entry =>
      obtain ⟨member, rfl⟩ := Outstanding.find?_some found
      intro others entered delivered consistent
      rw [Step.perform, Step.performExpire, Outstanding.expire?, found, Option.map_some,
        List.append_nil, List.append_nil]
      exact consistent_strike consistent rfl member rfl rfl rfl (by simp)

/-- The steps by which entries are settled that a close has taken out of the table. -/
theorem work_of_settlements (settlements : List Settlement) :
    undelivered (settlements.flatMap fun s => [.cancel s.cancelled, .deliver s]) = settlements ∧
      uncounted (settlements.flatMap fun s => [.cancel s.cancelled, .deliver s]) = 0 := by
  induction settlements with
  | nil => exact ⟨rfl, rfl⟩
  | cons s settlements ih =>
      rw [List.flatMap_cons, undelivered_append, uncounted_append, ih.1, ih.2]
      exact ⟨rfl, rfl⟩

theorem keeps_close (i : Initiator) : Keeps i .close := by
  cases shut : i.ledger.table.closed with
  | true =>
      refine keeps_of_passive rfl ?_
      rw [Step.perform, Step.performClose, Outstanding.close?, if_pos shut]
      exact passive_next rfl
  | false =>
      intro others entered delivered consistent
      rw [Step.perform, Step.performClose, Outstanding.close?, if_neg (ne_true_of_eq_false shut),
        List.append_nil, List.append_nil]
      let settlements : List Settlement := i.ledger.table.entries.map fun entry =>
        ⟨entry.slot, .failed .closed, entry.deadline⟩
      have slots : settlements.map (·.slot) = i.ledger.table.entries.map (·.slot) := List.map_map
      obtain ⟨owed, counts⟩ := work_of_settlements settlements
      refine consistent_close consistent rfl slots ?_ ?_
      · rw [undelivered_append, owed]
        exact List.append_nil _
      · rw [uncounted_append, counts]
        exact (Nat.zero_add _).trans (Nat.zero_add _)

/-- Each step keeps the initiator, the steps that are left and the history in accord. -/
theorem keeps (i : Initiator) (first : Step) : Keeps i first := by
  cases first with
  | check draws =>
      refine keeps_of_passive rfl ?_
      rw [Step.perform]
      split
      · exact passive_fail _ i
      · exact passive_next rfl
  | stamp draws =>
      refine keeps_of_passive rfl ?_
      cases draws with
      | nil => exact passive_fail _ i
      | cons id draws => exact passive_next rfl
  | enter sentAt id draws => exact keeps_enter sentAt id draws i
  | queue id =>
      refine keeps_of_passive rfl ?_
      rw [Step.perform, Step.performQueue]
      split
      · exact ⟨⟨rfl, rfl, List.prefix_rfl, rfl⟩, rfl, rfl, rfl⟩
      · exact passive_next rfl
  | receive payload =>
      refine keeps_of_passive rfl ⟨⟨rfl, rfl, List.prefix_rfl, rfl⟩, ?_, rfl, rfl⟩
      rw [Step.perform, Step.performReceive]
      cases CorrelationId.read payload <;> rfl
  | countSent | countShort | countViolation =>
      exact keeps_of_passive rfl ⟨⟨rfl, rfl, List.prefix_rfl, rfl⟩, rfl, rfl, rfl⟩
  | stampReply id => exact keeps_of_passive rfl (passive_next rfl)
  | cancel deadline =>
      refine keeps_of_passive rfl ⟨⟨rfl, ?_, List.prefix_rfl, rfl⟩, rfl, rfl, rfl⟩
      exact congrArg (decide <| 0 < ·) (Deadlines.shutdowns_cancel? deadline i.deadlines)
  | resolve id now => exact keeps_resolve id now i
  | expire id => exact keeps_expire id i
  | close => exact keeps_close i
  | deliver settlement =>
      intro others entered delivered consistent
      rw [Step.perform, List.append_nil]
      exact consistent_deliver consistent
  | shutdown =>
      intro others entered delivered consistent
      rw [Step.perform, List.append_nil, List.append_nil]
      exact consistent_shutdown consistent
  | countMatched nanos =>
      exact keeps_of_count rfl rfl (Tally.ended_replyMatched nanos i.tally)
  | countTimedOut =>
      exact keeps_of_count rfl rfl (Tally.ended_timedOut i.tally)
  | countClosed failed =>
      exact keeps_of_count rfl rfl (Tally.ended_failedOnClose failed i.tally)

/-- A closed table stays closed. -/
theorem isClosed_perform (closed : i.isClosed = true) (first : Step) :
    (first.perform i).initiator.isClosed = true := by
  cases first with
  | check draws => rwa [Step.perform, if_pos closed]
  | stamp draws => cases draws <;> exact closed
  | enter sentAt id draws =>
      have refused : i.ledger.table.refusal? id = some .closed := if_pos closed
      rwa [Step.perform, Step.performEnter, refused]
  | queue id =>
      rw [Step.perform, Step.performQueue]
      split <;> exact closed
  | resolve id now =>
      rw [Step.perform, Step.performResolve, Outstanding.resolve?]
      cases i.ledger.table.find? id <;> exact closed
  | expire id =>
      rw [Step.perform, Step.performExpire, Outstanding.expire?]
      cases i.ledger.table.find? id <;> exact closed
  | close =>
      have none : i.ledger.table.close? = none := if_pos closed
      rwa [Step.perform, Step.performClose, none]
  | countSent | receive | countShort | stampReply | countMatched | countViolation | countTimedOut
  | cancel | deliver | shutdown | countClosed => exact closed

theorem isClosed_close (i : Initiator) : (Step.close.perform i).initiator.isClosed = true := by
  cases closed : i.isClosed with
  | true => exact isClosed_perform closed .close
  | false =>
      have taken : i.ledger.table.close? = some _ := if_neg (Bool.eq_false_iff.mp closed)
      rw [Step.perform, Step.performClose, taken]
      rfl

/-! ## What is no step -/

theorem consistent_dropMeasurement (consistent : Consistent i left entered delivered)
    (slot : Nat) : Consistent (i.dropMeasurement slot) left entered delivered where
  distinct := consistent.distinct
  closed := consistent.closed
  up := consistent.up
  listed := consistent.listed
  armed := consistent.armed
  slots := consistent.slots
  below entry member := by
    rw [measurements, dropMeasurement, Ledger.dropMeasurement, List.length_modify]
    exact consistent.below entry member
  accounted := consistent.accounted
  awaited other member := by
    obtain ⟨m, id, present, awaits⟩ := consistent.awaited other member
    refine ⟨_, id, Ledger.getElem?_dropMeasurement present slot, ?_⟩
    split
    · exact Measurement.awaits_drop awaits
    · exact awaits
  arrived s member := by
    obtain ⟨m, present, took⟩ := consistent.arrived s member
    refine ⟨_, Ledger.getElem?_dropMeasurement present slot, ?_⟩
    split
    · exact Measurement.took_drop took
    · exact took
  counted := consistent.counted

theorem consistent_rearrange (consistent : Consistent i left entered delivered)
    {entries : List Entry} (same : entries.Perm i.ledger.table.entries) :
    Consistent
      { i with ledger := { i.ledger with table := { i.ledger.table with entries } } } left entered
      delivered := by
  apply consistent.moved
  · exact (same.map _).nodup_iff.mpr consistent.distinct
  · intro closed
    exact List.Perm.eq_nil (consistent.closed closed ▸ same)
  · exact consistent.up
  · exact same.subset
  · exact List.prefix_rfl
  · exact (same.map _).append_right _
  · apply ends_of_total
    · rfl
    · exact congrArg (· + uncounted left) same.length_eq

end Initiator

end RoundTrip
