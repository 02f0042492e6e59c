import Mathlib.Data.List.Perm.Basic
import RoundTrip.Proofs.Initiator

/-!
# Requests in flight and the ledger

A request that was entered is in flight until a reply to it is taken. The ledger and the
requests in flight balance (`Ledger.Balances`): every id in flight belongs to an entry or
to a measurement that has timed out, and as often as it is in flight. As long as no
measurement has timed out, the requests in flight are just the entries, and whatever was
answered was answered by the reply to its own request.

Entering a request, taking the first reply in flight and the deadline of an entry keep
the balance (`balances_enter`, `balances_answer`, `balances_expire`). A reply that names
no entry names a measurement that has timed out (`Ledger.Balances.timedOut_of_unknown`).
-/

namespace RoundTrip

/-- A request by the number of its measurement and its id. -/
structure Call where
  slot : Nat
  id : CorrelationId
deriving DecidableEq, Repr

def Entry.call (entry : Entry) : Call := ⟨entry.slot, entry.id⟩

/-- The id of a measurement that has timed out. -/
def Measurement.timedOut? (m : Measurement) : Option CorrelationId :=
  if m.progress = .settled (.failed .timeout) then m.id else none

namespace Ledger

open scoped List

/-- The ids of the measurements that have timed out. -/
def timedOut (l : Ledger) : List CorrelationId := l.measurements.filterMap (·.timedOut?)

/-- The measurement has a round trip. -/
def Answered (slot : Nat) (l : Ledger) : Prop :=
  ∃ m nanos, l.measurements[slot]? = some m ∧ m.progress = .settled (.answered nanos)

/-- No caller has dropped a measurement. -/
def Held (l : Ledger) : Prop := ∀ m ∈ l.measurements, m.held = true

/-- The requests in flight, those whose replies were taken, the measurements that got
these replies, and how many deadlines have fired, as the ledger has them. -/
structure Balances (flights past : List Call) (settled : List Nat) (fired : Nat) (l : Ledger) :
    Prop where
  ids : (flights.map (·.id)).Perm (l.table.entries.map (·.id) ++ l.timedOut)
  own : l.timedOut = [] →
    flights.Perm (l.table.entries.map (·.call)) ∧ settled = past.map (·.slot)
  told : ∀ slot, l.Answered slot → slot ∈ settled
  late : l.timedOut.length = fired

variable {l : Ledger} {flights past : List Call} {settled : List Nat} {fired : Nat}

/-! ## Measurements -/

theorem perm_filterMap_modify {α β : Type} {items : List α} {k : Nat} {item : α}
    (present : items[k]? = some item) (change : α → α) (read : α → Option β)
    (nothing : read item = none) :
    ((items.modify k change).filterMap read).Perm
      ((read (change item)).toList ++ items.filterMap read) := by
  obtain ⟨inside, rfl⟩ := List.getElem?_eq_some_iff.mp present
  have whole : items.filterMap read =
      (items.take k).filterMap read ++ (items.drop (k + 1)).filterMap read := by
    conv_lhs => rw [← List.take_append_drop k items, List.drop_eq_getElem_cons inside]
    rw [List.filterMap_append, List.filterMap_cons_none nothing]
  rw [List.modify_eq_take_cons_drop inside, whole, List.filterMap_append]
  cases gives : read (change items[k]) with
  | none => rw [List.filterMap_cons_none gives]; exact .refl _
  | some b => rw [List.filterMap_cons_some gives]; exact List.perm_middle

/-- The measurement of an entry waits. -/
theorem pending_of_entry (sound : l.Sound) (held : l.Held) {entry : Entry}
    (member : entry ∈ l.table.entries) :
    ∃ m, l.measurements[entry.slot]? = some m ∧ m.id = some entry.id ∧ m.progress = .pending := by
  obtain ⟨m, present, named, progress⟩ := sound.awaited entry member
  rw [held m (List.mem_of_getElem? present), if_pos rfl] at progress
  exact ⟨m, present, named, progress⟩

theorem timedOut_strike (sound : l.Sound) (held : l.Held) {entry : Entry}
    (member : entry ∈ l.table.entries) (outcome : Outcome) :
    (l.strike entry outcome).timedOut.Perm
      ((if outcome = .failed .timeout then [entry.id] else []) ++ l.timedOut) := by
  obtain ⟨m, present, named, pending⟩ := pending_of_entry sound held member
  have nothing : m.timedOut? = none := by simp [Measurement.timedOut?, pending]
  refine (perm_filterMap_modify present (·.deliver outcome) (·.timedOut?) nothing).trans ?_
  by_cases late : outcome = .failed .timeout
  · simp [Measurement.timedOut?, Measurement.deliver, Progress.deliver, pending, named, late,
      timedOut]
  · simp [Measurement.timedOut?, Measurement.deliver, Progress.deliver, pending, late, timedOut]

/-- Closing leaves the outcome of a measurement that has timed out. -/
theorem timedOut_drain {id : CorrelationId} (late : id ∈ l.timedOut) : id ∈ l.drain.timedOut := by
  obtain ⟨m, member, timedOut⟩ := List.mem_filterMap.mp late
  refine List.mem_filterMap.mpr ⟨m, ?_, timedOut⟩
  have settled : m.progress ≠ .pending := by
    intro pending
    simp [Measurement.timedOut?, pending] at timedOut
  exact List.mem_map.mpr ⟨m, member, Measurement.deliver_of_ne_pending settled _⟩

/-- Striking out a request gives its measurement an outcome, and no other one. -/
theorem answered_strike {entry : Entry} {outcome : Outcome} {slot : Nat}
    (answered : (l.strike entry outcome).Answered slot) :
    l.Answered slot ∨ slot = entry.slot ∧ ∃ nanos, outcome = .answered nanos := by
  obtain ⟨m, nanos, present, progress⟩ := answered
  by_cases own : entry.slot = slot
  · rw [strike, own, List.getElem?_modify_eq] at present
    obtain ⟨before, there, rfl⟩ := Option.map_eq_some_iff.mp present
    cases was : before.progress with
    | pending =>
        simp only [Measurement.deliver, was, Progress.deliver, Progress.settled.injEq] at progress
        exact .inr ⟨own.symm, nanos, progress⟩
    | settled | dropped =>
        simp only [Measurement.deliver, was, Progress.deliver] at progress
        exact .inl ⟨before, nanos, there, was.trans progress⟩
  · rw [strike, List.getElem?_modify_ne _ _ own] at present
    exact .inl ⟨m, nanos, present, progress⟩

theorem held_append (held : l.Held) {m : Measurement} (fresh : m.held = true) :
    Held { l with measurements := l.measurements ++ [m] } := by
  intro other member
  rcases List.mem_append.mp member with earlier | last
  · exact held other earlier
  · rw [List.mem_singleton.mp last]
    exact fresh

theorem held_strike (held : l.Held) (entry : Entry) (outcome : Outcome) :
    (l.strike entry outcome).Held := by
  intro m member
  obtain ⟨slot, present⟩ := List.getElem?_of_mem member
  rw [strike, List.getElem?_modify] at present
  obtain ⟨before, there, rfl⟩ := Option.map_eq_some_iff.mp present
  have held := held before (List.mem_of_getElem? there)
  split
  · exact held
  · exact held

theorem timedOut_append {m : Measurement} (fresh : m.timedOut? = none) :
    timedOut { l with measurements := l.measurements ++ [m] } = l.timedOut := by
  simp [timedOut, fresh]

/-- A measurement that was added has not timed out and is not answered. -/
theorem balances_append (balances : l.Balances flights past settled fired) {m : Measurement}
    (fresh : m.timedOut? = none) (unanswered : ∀ nanos, m.progress ≠ .settled (.answered nanos)) :
    Balances flights past settled fired { l with measurements := l.measurements ++ [m] } := by
  constructor
  · rw [timedOut_append fresh]
    exact balances.ids
  · rw [timedOut_append fresh]
    exact balances.own
  · rintro slot ⟨other, nanos, present, progress⟩
    rcases getElem?_append_one.mp present with earlier | ⟨-, rfl⟩
    · exact balances.told slot ⟨other, nanos, earlier, progress⟩
    · exact absurd progress (unanswered nanos)
  · rw [timedOut_append fresh]
    exact balances.late

/-! ## What keeps the balance -/

theorem Balances.perm (balances : l.Balances flights past settled fired) {others : List Call}
    (same : others.Perm flights) : l.Balances others past settled fired where
  ids := (same.map _).trans balances.ids
  own none := ⟨same.trans (balances.own none).1, (balances.own none).2⟩
  told := balances.told
  late := balances.late

theorem balances_fail (balances : l.Balances flights past settled fired) (fault : Fault) :
    (l.fail fault).Balances flights past settled fired :=
  balances_append balances (by simp [Measurement.timedOut?, Measurement.failed])
    (by simp [Measurement.failed])

/-- The request that is entered is in flight from then on. -/
theorem balances_enter (balances : l.Balances flights past settled fired) (id : CorrelationId)
    (sentAt : Nat) (deadline : Option Nat) :
    (l.enter id sentAt deadline).Balances (⟨l.measurements.length, id⟩ :: flights) past settled
      fired := by
  obtain ⟨ids, own, told, late⟩ := balances_append balances (m := .waiting id)
    (by simp [Measurement.timedOut?, Measurement.waiting]) (by simp [Measurement.waiting])
  constructor
  · simp only [enter, Outstanding.insert, List.map_append, List.map_cons, List.map_nil]
    rw [List.append_assoc]
    exact (ids.cons id).trans List.perm_middle.symm
  · intro none
    refine ⟨?_, (own none).2⟩
    simp only [enter, Outstanding.insert, List.map_append, List.map_cons, List.map_nil]
    exact ((own none).1.cons _).trans (List.perm_append_singleton _ _).symm
  · exact told
  · exact late

/-- The first reply in flight is taken, and there is an entry for it. -/
theorem balances_answer (sound : l.Sound) (held : l.Held) {call : Call}
    (balances : l.Balances (call :: flights) past settled fired) {entry : Entry}
    (member : entry ∈ l.table.entries) (named : entry.id = call.id) (nanos : Nat) :
    (l.strike entry (.answered nanos)).Balances flights (past ++ [call])
      (settled ++ [entry.slot]) fired := by
  have entries := Outstanding.perm_erase sound.distinct member
  have late : (l.strike entry (.answered nanos)).timedOut.Perm l.timedOut := by
    simpa using timedOut_strike sound held member (.answered nanos)
  constructor
  · refine List.Perm.cons_inv (a := call.id) ?_
    calc
      (call :: flights).map (·.id)
      _ ~ l.table.entries.map (·.id) ++ l.timedOut := balances.ids
      _ ~ (entry :: (l.table.erase entry.id).entries).map (·.id) ++
          (l.strike entry (.answered nanos)).timedOut := (entries.map _).append late.symm
      _ = call.id :: ((l.strike entry (.answered nanos)).table.entries.map (·.id) ++
          (l.strike entry (.answered nanos)).timedOut) := by rw [← named]; rfl
  · intro none
    rw [none, List.nil_perm] at late
    obtain ⟨own, slots⟩ := balances.own late
    -- The first request in flight has an entry, and it is the one with its id.
    have same : entry.call = call := by
      obtain ⟨other, otherMember, rfl⟩ := List.mem_map.mp (own.subset List.mem_cons_self)
      rw [List.inj_on_of_nodup_map sound.distinct member otherMember named]
    refine ⟨List.Perm.cons_inv (a := call) ?_, ?_⟩
    · refine own.trans ((entries.map _).trans ?_)
      rw [List.map_cons, same]
      rfl
    · rw [slots, List.map_append, ← same]
      rfl
  · intro slot answered
    rcases answered_strike answered with earlier | ⟨rfl, -⟩
    · exact List.mem_append_left _ (balances.told slot earlier)
    · exact List.mem_append_right _ (List.mem_singleton.mpr rfl)
  · rw [late.length_eq]
    exact balances.late

/-- The deadline of an entry comes, and the request stays in flight. -/
theorem balances_expire (sound : l.Sound) (held : l.Held)
    (balances : l.Balances flights past settled fired) {entry : Entry}
    (member : entry ∈ l.table.entries) :
    (l.strike entry (.failed .timeout)).Balances flights past settled (fired + 1) := by
  have entries := Outstanding.perm_erase sound.distinct member
  have late : (l.strike entry (.failed .timeout)).timedOut.Perm (entry.id :: l.timedOut) := by
    simpa using timedOut_strike sound held member (.failed .timeout)
  constructor
  · calc
      flights.map (·.id)
      _ ~ l.table.entries.map (·.id) ++ l.timedOut := balances.ids
      _ ~ (entry :: (l.table.erase entry.id).entries).map (·.id) ++ l.timedOut :=
        (entries.map _).append_right _
      _ ~ (l.table.erase entry.id).entries.map (·.id) ++ entry.id :: l.timedOut :=
        List.perm_middle.symm
      _ ~ (l.table.erase entry.id).entries.map (·.id) ++
          (l.strike entry (.failed .timeout)).timedOut := late.symm.append_left _
  · intro none
    rw [none, List.nil_perm] at late
    cases late
  · intro slot answered
    rcases answered_strike answered with earlier | ⟨-, nanos, other⟩
    · exact balances.told slot earlier
    · cases other
  · rw [late.length_eq, List.length_cons, balances.late]

/-- A request in flight without an entry has timed out. -/
theorem Balances.timedOut_of_unknown (balances : l.Balances flights past settled fired)
    {call : Call} (member : call ∈ flights)
    (unknown : ∀ entry ∈ l.table.entries, entry.id ≠ call.id) : call.id ∈ l.timedOut := by
  have there : call.id ∈ l.table.entries.map (·.id) ++ l.timedOut :=
    balances.ids.subset (List.mem_map_of_mem member)
  rcases List.mem_append.mp there with entered | late
  · obtain ⟨entry, entryMember, same⟩ := List.mem_map.mp entered
    exact absurd same (unknown entry entryMember)
  · exact late

end Ledger

end RoundTrip
