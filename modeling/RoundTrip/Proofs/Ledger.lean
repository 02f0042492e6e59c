import RoundTrip.Ledger
import RoundTrip.Proofs.Keyed

/-!
# The ledger in order

In a sound ledger every entry has a measurement of its own that still waits, and no
other measurement waits. Replies and deadlines strike out one entry (`resolve?_eq`,
`expire?_eq`), closing strikes out all of them, and since nobody else waits that is
to tell every measurement that the connection is closed (`close?_eq`). Every
operation keeps a sound ledger sound.
-/

namespace RoundTrip

theorem Progress.deliver_ne_pending (outcome : Outcome) (p : Progress) :
    p.deliver outcome ≠ .pending := by
  cases p <;> simp [Progress.deliver]

theorem Progress.drop_ne_pending (p : Progress) : p.drop ≠ .pending := by
  cases p <;> simp [Progress.drop]

theorem Progress.drop_of_ne_pending {p : Progress} (notPending : p ≠ .pending) : p.drop = p := by
  cases p with
  | pending => exact absurd rfl notPending
  | settled outcome => rfl
  | dropped => rfl

namespace Measurement

/-- The measurement of a request that is outstanding. Once its caller has dropped
it, there is nobody to give the outcome to. -/
def Awaits (id : CorrelationId) (m : Measurement) : Prop :=
  m.id = some id ∧ m.progress = if m.held then .pending else .dropped

theorem deliver_of_ne_pending {m : Measurement} (notPending : m.progress ≠ .pending)
    (outcome : Outcome) : m.deliver outcome = m := by
  obtain ⟨id, progress, held⟩ := m
  cases progress with
  | pending => exact absurd rfl notPending
  | settled o => rfl
  | dropped => rfl

theorem deliver_deliver (first late : Outcome) (m : Measurement) :
    (m.deliver first).deliver late = m.deliver first :=
  deliver_of_ne_pending (Progress.deliver_ne_pending first m.progress) late

theorem awaits_drop {id : CorrelationId} {m : Measurement} (awaits : m.Awaits id) :
    m.drop.Awaits id := by
  obtain ⟨named, progress⟩ := awaits
  refine ⟨named, ?_⟩
  simp only [drop, progress]
  cases m.held <;> rfl

end Measurement

namespace Outstanding

theorem find?_eq_some_iff {t : Outstanding} (distinct : (t.entries.map (·.id)).Nodup)
    {id : CorrelationId} {entry : Entry} :
    t.find? id = some entry ↔ entry ∈ t.entries ∧ entry.id = id :=
  find?_key_eq_some_iff distinct

theorem find?_eq_none_iff {t : Outstanding} {id : CorrelationId} :
    t.find? id = none ↔ ∀ entry ∈ t.entries, entry.id ≠ id := by
  simp [find?]

theorem erase_of_find?_none {id : CorrelationId} {t : Outstanding} (unknown : t.find? id = none) :
    (t.erase id).entries = t.entries := by
  rw [erase, List.filter_eq_self]
  simpa using find?_eq_none_iff.mp unknown

theorem find?_erase (id other : CorrelationId) (t : Outstanding) :
    (t.erase other).find? id = if id = other then none else t.find? id := by
  rw [find?, erase, List.find?_filter]
  split
  case isTrue same =>
    rw [List.find?_eq_none]
    intro entry _
    simp [same]
  case isFalse different =>
    rw [find?]
    congr 1
    funext entry
    by_cases named : entry.id = id
    · simp [named, different]
    · simp [named]

/-- An entry that is struck out is one less. -/
theorem perm_erase {t : Outstanding} (distinct : (t.entries.map (·.id)).Nodup) {entry : Entry}
    (member : entry ∈ t.entries) : t.entries.Perm (entry :: (t.erase entry.id).entries) := by
  have left : (t.erase entry.id).entries = t.entries.erase entry := by
    rw [(List.Nodup.of_map _ distinct).erase_eq_filter, erase]
    apply List.filter_congr
    intro other otherMember
    have same : other.id = entry.id ↔ other = entry :=
      ⟨List.inj_on_of_nodup_map distinct otherMember member, congrArg Entry.id⟩
    by_cases one : other = entry <;> simp [one, same]
  rw [left]
  exact List.perm_cons_erase member

/-- A request is taken in if the table is open and its id is not in use. -/
theorem refusal?_eq_none_iff {t : Outstanding} {id : CorrelationId} :
    t.refusal? id = none ↔ t.closed = false ∧ ∀ entry ∈ t.entries, entry.id ≠ id := by
  rw [← find?_eq_none_iff]
  cases shut : t.closed <;> cases found : t.find? id <;> simp [refusal?, contains, shut, found]

end Outstanding

namespace Ledger

/-- One entry for each measurement that waits. -/
structure Sound (l : Ledger) : Prop where
  distinct : (l.table.entries.map (·.id)).Nodup
  slots : (l.table.entries.map (·.slot)).Nodup
  awaited : ∀ entry ∈ l.table.entries,
    ∃ m, l.measurements[entry.slot]? = some m ∧ m.Awaits entry.id
  waiting : ∀ slot m, l.measurements[slot]? = some m → m.progress = .pending →
    ∃ entry ∈ l.table.entries, entry.slot = slot
  closed : l.table.closed = true → l.table.entries = []

/-- Strike out one request. -/
def strike (entry : Entry) (outcome : Outcome) (l : Ledger) : Ledger where
  table := l.table.erase entry.id
  measurements := l.measurements.modify entry.slot (·.deliver outcome)

/-- Strike out all requests and enter no more. -/
def drain (l : Ledger) : Ledger where
  table := ⟨true, []⟩
  measurements := l.measurements.map (·.deliver (.failed .closed))

/-! ## What is struck out -/

theorem resolve?_eq (id : CorrelationId) (now : Nat) (l : Ledger) :
    l.resolve? id now = (l.table.find? id).map fun entry =>
      (Clock.elapsed entry.sentAt now, entry.deadline,
        l.strike entry (.answered (Clock.elapsed entry.sentAt now))) := by
  cases found : l.table.find? id with
  | none => simp [resolve?, Outstanding.resolve?, found]
  | some entry =>
      obtain ⟨-, rfl⟩ := Outstanding.find?_some found
      simp [resolve?, Outstanding.resolve?, found, strike, deliver]

theorem expire?_eq (id : CorrelationId) (l : Ledger) :
    l.expire? id = (l.table.find? id).map fun entry => l.strike entry (.failed .timeout) := by
  cases found : l.table.find? id with
  | none => simp [expire?, Outstanding.expire?, found]
  | some entry =>
      obtain ⟨-, rfl⟩ := Outstanding.find?_some found
      simp [expire?, Outstanding.expire?, found, strike, deliver]

theorem table_deliverAll (settlements : List Settlement) (l : Ledger) :
    (settlements.foldl deliver l).table = l.table := by
  induction settlements generalizing l with
  | nil => rfl
  | cons s settlements ih => exact ih (l.deliver s)

theorem getElem?_deliverAll (entries : List Entry) (outcome : Outcome) (l : Ledger) (slot : Nat) :
    ((entries.map fun e => (⟨e.slot, outcome, e.deadline⟩ : Settlement)).foldl deliver
        l).measurements[slot]? =
      l.measurements[slot]?.map fun m =>
        if slot ∈ entries.map (·.slot) then m.deliver outcome else m := by
  induction entries generalizing l with
  | nil => simp
  | cons e entries ih =>
      simp only [List.map_cons, List.foldl_cons, ih, deliver, List.getElem?_modify,
        Option.map_eq_map, Option.map_map]
      congr 1
      funext m
      by_cases own : e.slot = slot
      · by_cases again : slot ∈ entries.map (·.slot)
        · simp [own, again, Measurement.deliver_deliver]
        · simp [own, again]
      · simp [own, Ne.symm own]

/-- Nobody waits but the measurements of the entries, so telling these is to tell
all. -/
theorem close?_eq {l : Ledger} (sound : l.Sound) :
    l.close? =
      if l.table.closed then none else some (l.table.entries.map (·.deadline), l.drain) := by
  cases shut : l.table.closed with
  | true => simp [close?, Outstanding.close?, shut]
  | false =>
      simp only [close?, Outstanding.close?, shut, Bool.false_eq_true, ↓reduceIte,
        Option.map_some, List.map_map, Option.some.injEq, Prod.mk.injEq]
      refine ⟨rfl, ?_⟩
      rw [drain, Ledger.mk.injEq]
      refine ⟨table_deliverAll _ _, ?_⟩
      -- One measurement at a time: it has an entry, or nothing waits in it.
      apply List.ext_getElem?
      intro slot
      rw [getElem?_deliverAll, List.getElem?_map]
      cases present : l.measurements[slot]? with
      | none => rfl
      | some m =>
          by_cases owned : slot ∈ l.table.entries.map (·.slot)
          · simp [owned]
          · have notPending : m.progress ≠ .pending := by
              intro pending
              obtain ⟨entry, member, same⟩ := sound.waiting slot m present pending
              exact owned (List.mem_map.mpr ⟨entry, member, same⟩)
            simp [owned, Measurement.deliver_of_ne_pending notPending]

/-! ## What keeps a ledger sound -/

theorem sound_empty : Sound {} := by
  constructor <;> simp

theorem getElem?_append_one {ms : List Measurement} {last m : Measurement} {slot : Nat} :
    (ms ++ [last])[slot]? = some m ↔ ms[slot]? = some m ∨ slot = ms.length ∧ last = m := by
  rcases Nat.lt_trichotomy slot ms.length with before | rfl | after
  · rw [List.getElem?_append_left before]
    simp [Nat.ne_of_lt before]
  · simp
  · rw [List.getElem?_append_right (Nat.le_of_lt after), List.getElem?_eq_none (Nat.le_of_lt after)]
    have beyond : slot - ms.length ≠ 0 := by omega
    simp [beyond, Nat.ne_of_gt after]

theorem sound_fail {l : Ledger} (sound : l.Sound) (fault : Fault) : (l.fail fault).Sound := by
  refine ⟨sound.distinct, sound.slots, ?_, ?_, sound.closed⟩
  · intro entry member
    obtain ⟨m, present, awaits⟩ := sound.awaited entry member
    exact ⟨m, getElem?_append_one.mpr (.inl present), awaits⟩
  · intro slot m present pending
    rcases getElem?_append_one.mp present with old | ⟨-, rfl⟩
    · exact sound.waiting slot m old pending
    · cases pending

/-- Every entry has the number of a measurement that is there. -/
theorem Sound.slot_lt {l : Ledger} (sound : l.Sound) {entry : Entry} (member : entry ∈ l.table.entries) :
    entry.slot < l.measurements.length := by
  obtain ⟨m, present, -⟩ := sound.awaited entry member
  exact (List.getElem?_eq_some_iff.mp present).1

theorem sound_enter {l : Ledger} (sound : l.Sound) {id : CorrelationId}
    (free : l.table.refusal? id = none) (sentAt : Nat) (deadline : Option Nat) :
    (l.enter id sentAt deadline).Sound := by
  obtain ⟨isOpen, unused⟩ := Outstanding.refusal?_eq_none_iff.mp free
  constructor
  · exact nodup_map_concat sound.distinct unused
  · exact nodup_map_concat sound.slots fun entry member => Nat.ne_of_lt (sound.slot_lt member)
  · intro entry member
    rcases List.mem_append.mp member with old | new
    · obtain ⟨m, present, awaits⟩ := sound.awaited entry old
      exact ⟨m, getElem?_append_one.mpr (.inl present), awaits⟩
    · rw [List.mem_singleton.mp new]
      exact ⟨.waiting id, getElem?_append_one.mpr (.inr ⟨rfl, rfl⟩), rfl, rfl⟩
  · intro slot m present pending
    rcases getElem?_append_one.mp present with old | ⟨rfl, -⟩
    · obtain ⟨entry, member, same⟩ := sound.waiting slot m old pending
      exact ⟨entry, List.mem_append_left _ member, same⟩
    · exact ⟨_, List.mem_append_right _ (List.mem_singleton.mpr rfl), rfl⟩
  · intro closed
    exact absurd (isOpen.symm.trans closed) Bool.false_ne_true

/-- Entries with different ids have different measurements. -/
theorem Sound.slot_ne {l : Ledger} (sound : l.Sound) {entry other : Entry}
    (member : entry ∈ l.table.entries) (otherMember : other ∈ l.table.entries)
    (different : other.id ≠ entry.id) : other.slot ≠ entry.slot := by
  intro same
  rw [List.inj_on_of_nodup_map sound.slots otherMember member same] at different
  exact different rfl

theorem sound_strike {l : Ledger} (sound : l.Sound) {entry : Entry}
    (member : entry ∈ l.table.entries) (outcome : Outcome) : (l.strike entry outcome).Sound := by
  constructor
  · exact sound.distinct.sublist (List.filter_sublist.map _)
  · exact sound.slots.sublist (List.filter_sublist.map _)
  · intro other otherMember
    obtain ⟨kept, different⟩ := Outstanding.mem_erase.mp otherMember
    obtain ⟨m, present, awaits⟩ := sound.awaited other kept
    refine ⟨m, ?_, awaits⟩
    rw [strike, List.getElem?_modify_ne _ _ (sound.slot_ne member kept different).symm]
    exact present
  -- The measurement of the entry has an outcome now, and the others keep their entries.
  · intro slot m present pending
    by_cases own : entry.slot = slot
    · subst own
      rw [strike, List.getElem?_modify_eq] at present
      obtain ⟨before, -, rfl⟩ := Option.map_eq_some_iff.mp present
      exact absurd pending (Progress.deliver_ne_pending outcome before.progress)
    · rw [strike, List.getElem?_modify_ne _ _ own] at present
      obtain ⟨other, kept, same⟩ := sound.waiting slot m present pending
      refine ⟨other, Outstanding.mem_erase.mpr ⟨kept, ?_⟩, same⟩
      intro sameId
      have one := List.inj_on_of_nodup_map sound.distinct kept member sameId
      exact own (one ▸ same)
  · intro closed
    exact absurd (sound.closed closed ▸ member) List.not_mem_nil

theorem sound_drain (l : Ledger) : l.drain.Sound := by
  refine ⟨List.nodup_nil, List.nodup_nil, ?_, ?_, fun _ => rfl⟩
  · intro entry member
    exact absurd member List.not_mem_nil
  · intro slot m present pending
    rw [drain, List.getElem?_map] at present
    obtain ⟨before, -, rfl⟩ := Option.map_eq_some_iff.mp present
    exact absurd pending (Progress.deliver_ne_pending _ before.progress)

theorem getElem?_dropMeasurement {l : Ledger} {slot : Nat} {m : Measurement}
    (present : l.measurements[slot]? = some m) (dropped : Nat) :
    (l.dropMeasurement dropped).measurements[slot]? =
      some (if dropped = slot then m.drop else m) := by
  rw [dropMeasurement, List.getElem?_modify, present]
  rfl

theorem sound_dropMeasurement {l : Ledger} (sound : l.Sound) (slot : Nat) :
    (l.dropMeasurement slot).Sound := by
  refine ⟨sound.distinct, sound.slots, ?_, ?_, sound.closed⟩
  · intro entry member
    obtain ⟨m, present, awaits⟩ := sound.awaited entry member
    refine ⟨_, getElem?_dropMeasurement present slot, ?_⟩
    split
    · exact Measurement.awaits_drop awaits
    · exact awaits
  · intro other m present pending
    by_cases own : slot = other
    · subst own
      rw [dropMeasurement, List.getElem?_modify_eq] at present
      obtain ⟨before, old, rfl⟩ := Option.map_eq_some_iff.mp present
      exact absurd pending (Progress.drop_ne_pending before.progress)
    · rw [dropMeasurement, List.getElem?_modify_ne _ _ own] at present
      exact sound.waiting other m present pending

end Ledger

end RoundTrip
