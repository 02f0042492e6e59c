import RoundTrip.Proofs.Ledger

/-!
# The table and its book

The table of outstanding requests is called in any order (`Desk.run`). The book has an item for
every request that the table ever took in. It shows each call to each of its items, and the first
outcome that a call brings to an item stays (`Item.note`).

Main result: the table answers as the book says, it holds what the book has outstanding, and what
was due of it are the settlements of the items, each of them once (`table_keeps_its_book`).
-/

namespace RoundTrip

inductive TableCall
  /-- Take in a request. There is nothing to cancel if its deadline is inert. -/
  | register (id : CorrelationId) (sentAt : Nat) (inert : Bool)
  | resolve (id : CorrelationId) (now : Nat)
  | expire (id : CorrelationId)
  | close
deriving DecidableEq, Repr

inductive TableReply
  | registered (slot : Nat)
  | refused (refusal : Refusal)
  | resolved (nanos : Nat)
  | failed (fault : Fault)
  | expired (settled : Bool)
  /-- How many requests were settled, if this was the first closing. -/
  | closed (count : Option Nat)
deriving DecidableEq, Repr

/-- Nothing was taken in, settled or closed. -/
def TableReply.isIdle : TableReply → Bool
  | refused _ | failed _ | expired false | closed none => true
  | registered _ | resolved _ | expired true | closed (some _) => false

/-- The table in use. -/
structure Desk where
  table : Outstanding := {}
  /-- For which ids a deadline was armed. Deadlines and measurements are numbered in this order. -/
  armed : List CorrelationId := []
  /-- What was due so far. -/
  due : List Settlement := []
deriving DecidableEq, Repr

namespace Desk

def register (id : CorrelationId) (sentAt : Nat) (inert : Bool) (d : Desk) : TableReply × Desk :=
  match d.table.refusal? id with
  | some refusal => (.refused refusal, d)
  | none =>
      let number := d.armed.length
      let deadline := if inert then none else some number
      (.registered number,
        { d with
          table := d.table.insert ⟨id, sentAt, number, deadline⟩
          armed := d.armed ++ [id] })

def resolve (id : CorrelationId) (now : Nat) (d : Desk) : TableReply × Desk :=
  match d.table.resolve? id now with
  | none => (.failed (.violation id), d)
  | some (nanos, settlement, table) =>
      (.resolved nanos, { d with table, due := d.due ++ [settlement] })

def expire (id : CorrelationId) (d : Desk) : TableReply × Desk :=
  match d.table.expire? id with
  | none => (.expired false, d)
  | some (settlement, table) => (.expired true, { d with table, due := d.due ++ [settlement] })

def close (d : Desk) : TableReply × Desk :=
  match d.table.close? with
  | none => (.closed none, d)
  | some (settlements, table) =>
      (.closed (some settlements.length), { d with table, due := d.due ++ settlements })

def act (d : Desk) : TableCall → TableReply × Desk
  | .register id sentAt inert => d.register id sentAt inert
  | .resolve id now => d.resolve id now
  | .expire id => d.expire id
  | .close => d.close

def run (d : Desk) (calls : List TableCall) : Desk := calls.foldl (fun d call => (d.act call).2) d

end Desk

/-! ## The book -/

/-- With what a call settles an outstanding request. -/
def TableCall.outcome? (entry : Entry) : TableCall → Option Outcome
  | register _ _ _ => none
  | resolve id now => if entry.id = id then some (.answered (now - entry.sentAt)) else none
  | expire id => if entry.id = id then some (.failed .timeout) else none
  | close => some (.failed .closed)

/-- What is due for an outcome. A deadline that has come needs no cancelling. -/
def Entry.settlement (entry : Entry) (outcome : Outcome) : Settlement where
  slot := entry.slot
  outcome
  cancelled := if outcome = .failed .timeout then none else entry.deadline

/-- A request that was taken in, and what became of it. -/
structure Item extends Entry where
  outcome : Option Outcome := none
deriving DecidableEq, Repr

namespace Item

def isOutstanding (item : Item) : Bool := item.outcome.isNone

/-- The first outcome stays. -/
def note (call : TableCall) (item : Item) : Item :=
  { item with outcome := item.outcome <|> call.outcome? item.toEntry }

def settlement? (item : Item) : Option Settlement := item.outcome.map item.settlement

/-- How often the deadline is cancelled. -/
def cancellations (item : Item) : Nat :=
  if item.outcome = none ∨ item.outcome = some (.failed .timeout) then 0 else 1

end Item

structure Book where
  closed : Bool := false
  items : List Item := []
deriving DecidableEq, Repr

namespace Book

def outstanding (b : Book) : List Item := b.items.filter (·.isOutstanding)

def find? (id : CorrelationId) (b : Book) : Option Item := b.outstanding.find? (·.id = id)

/-- Why a request with this id is not taken in. -/
def refusal? (id : CorrelationId) (b : Book) : Option Refusal :=
  if b.closed then some .closed
  else if (b.find? id).isSome then some .duplicate
  else none

def answer (b : Book) : TableCall → TableReply
  | .register id _ _ => (b.refusal? id).elim (.registered b.items.length) .refused
  | .resolve id now =>
      match b.find? id with
      | none => .failed (.violation id)
      | some item => .resolved (now - item.sentAt)
  | .expire id => .expired (b.find? id).isSome
  | .close => .closed (if b.closed then none else some b.outstanding.length)

/-- The item of a request that is taken in. -/
def added (b : Book) : TableCall → List Item
  | .register id sentAt inert =>
      match b.refusal? id with
      | some _ => []
      | none =>
          let number := b.items.length
          [{ id, sentAt, slot := number, deadline := if inert then none else some number }]
  | .resolve _ _ | .expire _ | .close => []

def note (b : Book) (call : TableCall) : Book where
  closed := b.closed || call = .close
  items := b.items.map (·.note call) ++ b.added call

def run (b : Book) (calls : List TableCall) : Book := calls.foldl note b

/-- Items are numbered, and so are their deadlines. The ids in use differ, and none is in use once
the table is closed. -/
structure Sound (b : Book) : Prop where
  slots : b.items.map (·.slot) = List.range b.items.length
  deadlines : ∀ item ∈ b.items, item.deadline = none ∨ item.deadline = some item.slot
  distinct : (b.outstanding.map (·.id)).Nodup
  closed : b.closed = true → b.outstanding = []

variable {b : Book}

theorem find?_eq_none_iff {id : CorrelationId} :
    b.find? id = none ↔ ∀ item ∈ b.outstanding, item.id ≠ id := by
  simp [find?]

theorem refusal?_eq_none_iff {id : CorrelationId} :
    b.refusal? id = none ↔ b.closed = false ∧ ∀ item ∈ b.outstanding, item.id ≠ id := by
  rw [refusal?, ← find?_eq_none_iff]
  cases b.closed <;> cases b.find? id <;> simp

/-- A new item is outstanding, has the next number, and an id that was not in use. -/
structure New (b : Book) (item : Item) : Prop where
  isOpen : b.closed = false
  unused : ∀ other ∈ b.outstanding, other.id ≠ item.id
  outcome : item.outcome = none
  slot : item.slot = b.items.length
  deadline : item.deadline = none ∨ item.deadline = some item.slot

theorem added_cases (b : Book) (call : TableCall) :
    b.added call = [] ∨ ∃ item, b.added call = [item] ∧ b.New item ∧ call ≠ .close := by
  cases call with
  | register id sentAt inert =>
      rw [added]
      cases refused : b.refusal? id with
      | some refusal => exact .inl rfl
      | none =>
          obtain ⟨isOpen, unused⟩ := refusal?_eq_none_iff.mp refused
          refine .inr ⟨_, rfl, ⟨isOpen, unused, rfl, rfl, ?_⟩, TableCall.noConfusion⟩
          cases inert
          · exact .inr rfl
          · exact .inl rfl
  | resolve | expire | close => exact .inl rfl

theorem outcome_of_added {call : TableCall} {item : Item} (member : item ∈ b.added call) :
    item.outcome = none := by
  rcases added_cases b call with nothing | ⟨other, one, new, -⟩
  · rw [nothing] at member
    cases member
  · rw [one, List.mem_singleton] at member
    rw [member, new.outcome]

/-- What is outstanding after a call was so before and is not settled by it, or is added. -/
theorem outstanding_note (b : Book) (call : TableCall) :
    (b.note call).outstanding =
      b.outstanding.filter (fun item => (call.outcome? item.toEntry).isNone) ++ b.added call := by
  have added : (b.added call).filter (·.isOutstanding) = b.added call := by
    rw [List.filter_eq_self]
    intro item member
    simp [Item.isOutstanding, outcome_of_added member]
  have kept : (b.items.map (·.note call)).filter (·.isOutstanding) =
      b.outstanding.filter fun item => (call.outcome? item.toEntry).isNone := by
    rw [outstanding]
    induction b.items with
    | nil => rfl
    | cons item items ih =>
        obtain ⟨entry, outcome⟩ := item
        cases outcome with
        | some outcome => simpa [Item.note, Item.isOutstanding] using ih
        | none =>
            cases brought : call.outcome? entry with
            | none => simpa [Item.note, Item.isOutstanding, brought] using ih
            | some outcome => simpa [Item.note, Item.isOutstanding, brought] using ih
  rw [outstanding, note, List.filter_append, kept, added]

/-- A call brings settlements to items that were outstanding, one to each at most. -/
theorem settlements_note (b : Book) (call : TableCall) :
    ((b.note call).items.filterMap (·.settlement?)).Perm
      (b.items.filterMap (·.settlement?) ++
        b.outstanding.filterMap fun item => (call.outcome? item.toEntry).map item.settlement) := by
  have added : (b.added call).filterMap (·.settlement?) = [] := by
    rw [List.filterMap_eq_nil_iff]
    intro item member
    rw [Item.settlement?, outcome_of_added member]
    rfl
  -- Item by item: the settlement that the call brings moves behind those of the other items.
  rw [note, List.filterMap_append, added, List.append_nil, outstanding]
  induction b.items with
  | nil => exact .refl []
  | cons item items ih =>
      obtain ⟨entry, outcome⟩ := item
      cases outcome with
      | some outcome => simpa [Item.note, Item.isOutstanding, Item.settlement?] using ih
      | none =>
          cases brought : call.outcome? entry with
          | none => simpa [Item.note, Item.isOutstanding, Item.settlement?, brought] using ih
          | some outcome =>
              have moved := (ih.cons (entry.settlement outcome)).trans List.perm_middle.symm
              simpa [Item.note, Item.isOutstanding, Item.settlement?, brought] using moved

theorem sound_empty : Sound {} := by
  constructor <;> simp [outstanding]

theorem sound_note (sound : b.Sound) (call : TableCall) : (b.note call).Sound := by
  have slots : (b.items.map (·.note call)).map (·.slot) = List.range b.items.length := by
    rw [List.map_map]
    exact sound.slots
  have deadlines : ∀ item ∈ b.items.map (·.note call),
      item.deadline = none ∨ item.deadline = some item.slot := by
    intro item member
    obtain ⟨before, old, rfl⟩ := List.mem_map.mp member
    exact sound.deadlines before old
  have distinct : ((b.outstanding.filter fun item =>
      (call.outcome? item.toEntry).isNone).map (·.id)).Nodup :=
    sound.distinct.sublist (List.filter_sublist.map _)
  rcases added_cases b call with nothing | ⟨item, one, new, notClose⟩
  · constructor
    · simpa [note, nothing] using slots
    · simpa [note, nothing] using deadlines
    · simpa [outstanding_note, nothing] using distinct
    · intro closed
      rw [outstanding_note, nothing, List.append_nil]
      rcases Bool.or_eq_true_iff.mp closed with before | close
      · rw [sound.closed before, List.filter_nil]
      · rw [of_decide_eq_true close, List.filter_eq_nil_iff]
        simp [TableCall.outcome?]
  · constructor
    · simp [note, one, slots, new.slot, List.range_succ]
    · simp only [note, one, List.forall_mem_append, List.forall_mem_singleton]
      exact ⟨deadlines, new.deadline⟩
    · rw [outstanding_note, one]
      refine nodup_map_concat distinct ?_
      exact fun other kept => new.unused other (List.mem_filter.mp kept).1
    · intro closed
      simp [note, new.isOpen, notClose] at closed

theorem sound_run (sound : b.Sound) (calls : List TableCall) : (b.run calls).Sound := by
  induction calls generalizing b with
  | nil => exact sound
  | cons call calls ih => exact ih (sound_note sound call)

theorem closed_run (b : Book) (calls : List TableCall) :
    (b.run calls).closed = (b.closed || .close ∈ calls) := by
  induction calls generalizing b with
  | nil => simp [run]
  | cons call calls ih =>
      refine (ih (b.note call)).trans ?_
      simp [note, Bool.or_assoc, eq_comm]

end Book

/-- The book tells what the table holds and what was due of it. -/
structure Desk.Follows (d : Desk) (b : Book) : Prop where
  closed : d.table.closed = b.closed
  entries : d.table.entries = b.outstanding.map (·.toEntry)
  armed : d.armed = b.items.map (·.id)
  due : d.due.Perm (b.items.filterMap (·.settlement?))

namespace Desk

variable {d : Desk} {b : Book}

theorem find?_table (follows : d.Follows b) (id : CorrelationId) :
    d.table.find? id = (b.find? id).map (·.toEntry) := by
  rw [Outstanding.find?, follows.entries, List.find?_map]
  rfl

theorem refusal?_table (follows : d.Follows b) (id : CorrelationId) :
    d.table.refusal? id = b.refusal? id := by
  rw [Outstanding.refusal?, Outstanding.contains, find?_table follows, follows.closed,
    Option.isSome_map, Book.refusal?]

theorem length_armed (follows : d.Follows b) : d.armed.length = b.items.length := by
  rw [follows.armed, List.length_map]

theorem answer_eq (follows : d.Follows b) (call : TableCall) : (d.act call).1 = b.answer call := by
  cases call with
  | register id sentAt inert =>
      rw [act, register, refusal?_table follows, Book.answer, length_armed follows]
      cases b.refusal? id <;> rfl
  | resolve id now =>
      rw [act, resolve, Outstanding.resolve?, find?_table follows, Book.answer]
      cases b.find? id <;> rfl
  | expire id =>
      rw [act, expire, Outstanding.expire?, find?_table follows, Book.answer]
      cases b.find? id <;> rfl
  | close =>
      rw [act, close, Outstanding.close?, follows.closed, Book.answer]
      cases b.closed
      · simp [follows.entries]
      · rfl

/-- A call that names an id leaves the other entries, and settles the one that it finds. -/
theorem left_of_named {outcome : Entry → Outcome} {id : CorrelationId} {call : TableCall}
    (names : ∀ entry, call.outcome? entry = if entry.id = id then some (outcome entry) else none)
    (t : Outstanding) :
    t.entries.filter (fun entry => (call.outcome? entry).isNone) = (t.erase id).entries := by
  apply List.filter_congr
  intro entry _
  by_cases named : entry.id = id <;> simp [names, named]

theorem due_of_named {outcome : Entry → Outcome} {id : CorrelationId} {call : TableCall}
    (names : ∀ entry, call.outcome? entry = if entry.id = id then some (outcome entry) else none)
    {t : Outstanding} (distinct : (t.entries.map (·.id)).Nodup) :
    t.entries.filterMap (fun entry => (call.outcome? entry).map entry.settlement) =
      ((t.find? id).map fun entry => entry.settlement (outcome entry)).toList := by
  have settled : (fun entry : Entry => (call.outcome? entry).map entry.settlement) =
      fun entry =>
        (Option.guard (·.id = id) entry).map fun entry => entry.settlement (outcome entry) := by
    funext entry
    by_cases named : entry.id = id <;> simp [names, named, Option.guard]
  rw [settled, ← List.map_filterMap, List.filterMap_eq_filter, filter_key_eq_find? distinct,
    Outstanding.find?]
  cases t.entries.find? (·.id = id) <;> rfl

/-- What a call does to the table and causes. -/
theorem act_eq (follows : d.Follows b) (sound : b.Sound) (call : TableCall) :
    (d.act call).2 =
      { table.closed := d.table.closed || call = .close
        table.entries :=
          d.table.entries.filter (fun entry => (call.outcome? entry).isNone) ++
            (b.added call).map (·.toEntry)
        armed := d.armed ++ (b.added call).map (·.id)
        due := d.due ++ d.table.entries.filterMap fun entry =>
          (call.outcome? entry).map entry.settlement } := by
  have distinct : (d.table.entries.map (·.id)).Nodup := by
    rw [follows.entries, List.map_map]
    exact sound.distinct
  cases call with
  | register id sentAt inert =>
      rw [act, register, refusal?_table follows, Book.added, length_armed follows]
      cases b.refusal? id with
      | some refusal => simp [TableCall.outcome?]
      | none => simp [TableCall.outcome?, Outstanding.insert]
  | resolve id now =>
      have names : ∀ entry : Entry, (TableCall.resolve id now).outcome? entry =
        if entry.id = id then some (.answered (now - entry.sentAt)) else none := fun _ => rfl
      rw [act, resolve, Outstanding.resolve?, left_of_named names, due_of_named names distinct]
      cases found : d.table.find? id with
      | none => simp [Outstanding.erase_of_find?_none found, Book.added]
      | some entry => simp [Book.added, Entry.settlement, Clock.elapsed, Outstanding.erase]
  | expire id =>
      have names : ∀ entry : Entry, (TableCall.expire id).outcome? entry =
        if entry.id = id then some (.failed .timeout) else none := fun _ => rfl
      rw [act, expire, Outstanding.expire?, left_of_named names, due_of_named names distinct]
      cases found : d.table.find? id with
      | none => simp [Outstanding.erase_of_find?_none found, Book.added]
      | some entry => simp [Book.added, Entry.settlement, Outstanding.erase]
  | close =>
      rw [act, close, Outstanding.close?]
      cases shut : d.table.closed with
      | true =>
          have nothing : d.table.entries = [] := by
            rw [follows.entries, sound.closed (follows.closed.symm.trans shut), List.map_nil]
          -- A second closing changes nothing, as there is nothing left to settle.
          have same : (⟨true, []⟩ : Outstanding) = d.table := by rw [← nothing, ← shut]
          simp [nothing, same, Book.added]
      | false => simp [TableCall.outcome?, Book.added, Entry.settlement]

theorem follows_note (follows : d.Follows b) (sound : b.Sound) (call : TableCall) :
    (d.act call).2.Follows (b.note call) := by
  rw [act_eq follows sound call]
  constructor
  · exact congrArg (· || decide (call = .close)) follows.closed
  · rw [Book.outstanding_note, List.map_append, follows.entries, List.filter_map]
    rfl
  · rw [Book.note, follows.armed, List.map_append, List.map_map]
    rfl
  · refine (follows.due.append_right _).trans ?_
    rw [follows.entries, List.filterMap_map]
    exact (Book.settlements_note b call).symm

theorem follows_run (follows : d.Follows b) (sound : b.Sound) (calls : List TableCall) :
    (d.run calls).Follows (b.run calls) := by
  induction calls generalizing d b with
  | nil => exact follows
  | cons call calls ih => exact ih (follows_note follows sound call) (Book.sound_note sound call)

theorem act_of_idle {call : TableCall} (idle : (d.act call).1.isIdle = true) :
    (d.act call).2 = d := by
  cases call with
  | register id sentAt inert =>
      rw [act, register] at idle ⊢
      cases refused : d.table.refusal? id with
      | some refusal => rfl
      | none => simp [refused, TableReply.isIdle] at idle
  | resolve id now =>
      rw [act, resolve] at idle ⊢
      cases resolved : d.table.resolve? id now with
      | none => rfl
      | some next => simp [resolved, TableReply.isIdle] at idle
  | expire id =>
      rw [act, expire] at idle ⊢
      cases expired : d.table.expire? id with
      | none => rfl
      | some next => simp [expired, TableReply.isIdle] at idle
  | close =>
      rw [act, close] at idle ⊢
      cases closed : d.table.close? with
      | none => rfl
      | some next => simp [closed, TableReply.isIdle] at idle

theorem due_of_item (follows : d.Follows b) (sound : b.Sound) {item : Item}
    (member : item ∈ b.items) :
    d.due.filter (·.slot = item.slot) = item.settlement?.toList := by
  have distinct : (b.items.map (·.slot)).Nodup := by
    rw [sound.slots]
    exact List.nodup_range
  have own : b.items.filter (·.slot = item.slot) = [item] := by
    rw [filter_key_eq_find? distinct, (find?_key_eq_some_iff distinct).mpr ⟨member, rfl⟩]
    rfl
  have picked : (b.items.filterMap (·.settlement?)).filter (·.slot = item.slot) =
      (b.items.filter (·.slot = item.slot)).filterMap (·.settlement?) := by
    rw [List.filter_filterMap, List.filterMap_filter]
    congr 1
    funext other
    cases ended : other.outcome <;> simp [Item.settlement?, ended, Entry.settlement, Option.filter]
  have due := follows.due.filter (·.slot = item.slot)
  rw [picked, own] at due
  cases settled : item.settlement? with
  | none => simpa [settled] using due
  | some settlement => simpa [settled] using due

theorem cancelled_of_item (follows : d.Follows b) (sound : b.Sound) {item : Item}
    (member : item ∈ b.items) (armed : item.deadline = some item.slot) :
    d.due.countP (·.cancelled = some item.slot) = item.cancellations := by
  -- Nothing but the settlement of the item itself cancels its deadline.
  have numbered : ∀ settlement ∈ d.due, settlement.cancelled = some item.slot →
      settlement.slot = item.slot := by
    intro settlement due cancelled
    obtain ⟨other, entered, ended⟩ := List.mem_filterMap.mp (follows.due.mem_iff.mp due)
    obtain ⟨outcome, -, rfl⟩ := Option.map_eq_some_iff.mp ended
    rw [Entry.settlement] at cancelled
    split at cancelled
    · cases cancelled
    · rcases sound.deadlines other entered with inert | own
      · rw [inert] at cancelled
        cases cancelled
      · exact Option.some.inj (own.symm.trans cancelled)
  have own : d.due.countP (·.cancelled = some item.slot) =
      (d.due.filter (·.slot = item.slot)).countP (·.cancelled = some item.slot) := by
    rw [List.countP_filter]
    apply List.countP_congr
    intro settlement due
    simpa using numbered settlement due
  rw [own, due_of_item follows sound member, Item.settlement?, Item.cancellations]
  cases item.outcome with
  | none => rfl
  | some outcome =>
      by_cases late : outcome = .failed .timeout <;> simp [Entry.settlement, late, armed]

/-- On a fresh table, any calls: the table answers each call as its book says, and a call that
takes in, settles and closes nothing leaves everything as it is. What is in the table is what the
book has outstanding, with its time, its measurement and its deadline. One deadline was armed for
each item. The measurement of an item got its outcome once, if it has one, and its deadline was
cancelled once, if it was settled before the deadline came. -/
theorem table_keeps_its_book (calls : List TableCall) :
    let d := run {} calls
    let b := Book.run {} calls
    (∀ call, (d.act call).1 = b.answer call ∧
      ((d.act call).1.isIdle = true → (d.act call).2 = d)) ∧
    d.table.closed = b.closed ∧ (b.closed = true ↔ .close ∈ calls) ∧
    d.table.entries = b.outstanding.map (·.toEntry) ∧
    d.table.count = b.outstanding.length ∧ d.table.isEmpty = b.outstanding.isEmpty ∧
    (b.outstanding.map (·.id)).Nodup ∧
    (∀ id, d.table.contains id = true ↔ ∃ item ∈ b.outstanding, item.id = id) ∧
    d.armed = b.items.map (·.id) ∧ b.items.map (·.slot) = List.range b.items.length ∧
    d.due.Perm (b.items.filterMap (·.settlement?)) ∧
    ∀ item ∈ b.items,
      (d.due.filter (·.slot = item.slot)).map (·.outcome) = item.outcome.toList ∧
      (item.deadline = none ∨ item.deadline = some item.slot ∧
        d.due.countP (·.cancelled = some item.slot) = item.cancellations) := by
  intro d b
  have sound : b.Sound := Book.sound_run Book.sound_empty calls
  have follows : d.Follows b := follows_run ⟨rfl, rfl, rfl, .refl []⟩ Book.sound_empty calls
  refine ⟨fun call => ⟨answer_eq follows call, act_of_idle⟩, follows.closed, ?_, follows.entries,
    ?_, ?_, sound.distinct, ?_, follows.armed, sound.slots, follows.due, ?_⟩
  · rw [Book.closed_run]
    simp
  · rw [Outstanding.count, follows.entries, List.length_map]
  · rw [Outstanding.isEmpty, follows.entries, List.isEmpty_map]
  · intro id
    rw [Outstanding.contains, find?_table follows, Option.isSome_map, Book.find?]
    simp
  · intro item member
    constructor
    · rw [due_of_item follows sound member, Item.settlement?]
      cases item.outcome <;> rfl
    · rcases sound.deadlines item member with inert | armed
      · exact .inl inert
      · exact .inr ⟨armed, cancelled_of_item follows sound member armed⟩

/-- An id may be used again, and what was armed for it may be inert then. -/
example :
    let d := run {} [.register 7 10 false, .register 7 20 false, .resolve 7 15,
      .register 7 30 true, .close, .expire 7]
    d.armed = [7, 7] ∧
      d.due = [⟨0, .answered 5, some 0⟩, ⟨1, .failed .closed, none⟩] := by
  decide

end Desk

end RoundTrip
