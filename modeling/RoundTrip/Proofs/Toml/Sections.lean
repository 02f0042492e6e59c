import RoundTrip.Proofs.Toml.Value
import RoundTrip.Toml.Statement

/-!
# Written sections are read back

What `writeSections` writes is read line by line (`Reads`): a header, a pair for each value
and empty lines between sections. The tables that these statements open and fill hold the
same values in the same order, because no name is used twice.

Main results: a document of sections is read back from its text (`read_writeSections`), and
it has a text just if each of its values does (`writeSections_isSome`).
-/

namespace RoundTrip.Toml

/-- A name that stands in a key without quotes. -/
def Key.IsBare (name : String) : Prop :=
  name.toList ≠ [] ∧ ∀ c ∈ name.toList, Key.isBare c

/-- Only the characters of the name are looked at. -/
instance (name : String) : Decidable (Key.IsBare name) :=
  have same : (name.toList ≠ [] ∧ name.toList.all Key.isBare) ↔ Key.IsBare name := by
    rw [Key.IsBare, List.all_eq_true]
  decidable_of_decidable_of_iff same

/-- Names of one table: each stands without quotes, and none is used twice. -/
structure Named {α : Type} (members : List (String × α)) : Prop where
  bare : ∀ member ∈ members, Key.IsBare member.1
  distinct : (members.map Prod.fst).Nodup

theorem Named.of_names {α : Type} {members : List (String × α)} (names : List String)
    (same : members.map Prod.fst = names) (bare : ∀ name ∈ names, Key.IsBare name)
    (distinct : names.Nodup) : Named members where
  bare member isMember := bare member.1 (same ▸ List.mem_map_of_mem isMember)
  distinct := same ▸ distinct

variable {name : String} {text rest : List Char}

/-! ## Keys -/

namespace Key

theorem isBlank_of_isBare {c : Char} (bare : isBare c) : isBlank c = false := by
  cases blank : isBlank c with
  | false => rfl
  | true =>
      simp only [isBlank, Bool.or_eq_true, decide_eq_true_eq] at blank
      rcases blank with rfl | rfl <;> exact absurd bare (by decide)

theorem IsBare.eq_cons (bare : IsBare name) :
    ∃ first more, name.toList = first :: more ∧ isBare first := by
  obtain ⟨first, more, split⟩ := List.exists_cons_of_ne_nil bare.1
  exact ⟨first, more, split, bare.2 first (by simp [split])⟩

theorem readName_bare {c : Char} (bare : IsBare name) (stop : isBare c = false) :
    readName (name.toList ++ c :: rest) = some (name, c :: rest) := by
  have taken : (name.toList ++ c :: rest).takeWhile isBare = name.toList := by
    rw [List.takeWhile_append_of_pos bare.2, List.takeWhile_cons_of_neg (by simp [stop]),
      List.append_nil]
  have left : (name.toList ++ c :: rest).dropWhile isBare = c :: rest := by
    rw [List.dropWhile_append_of_pos bare.2, List.dropWhile_cons_of_neg (by simp [stop])]
  have whole := String.ofList_toList (s := name)
  obtain ⟨first, more, split, bareFirst⟩ := bare.eq_cons
  have unquoted : first ≠ '"' ∧ first ≠ '\'' :=
    ⟨ne_of_class bareFirst rfl, ne_of_class bareFirst rfl⟩
  rw [split] at taken left whole ⊢
  rw [readName.eq_def]
  simp only [List.cons_append] at taken left ⊢
  simp [unquoted, taken, left, whole]

/-- A bare name is a key, and the reader stops before what follows it and blanks. -/
theorem read_bare {c : Char} (bare : IsBare name) (stop : isBare c = false) (rest : List Char)
    (noDot : (skipBlanks (c :: rest)).head? ≠ some '.') :
    Key.read (name.toList ++ c :: rest) = some (⟨[], name⟩, skipBlanks (c :: rest)) := by
  have unblanked : skipBlanks (name.toList ++ c :: rest) = name.toList ++ c :: rest := by
    obtain ⟨first, more, split, bareFirst⟩ := bare.eq_cons
    simp [split, skipBlanks, isBlank_of_isBare bareFirst]
  rw [Key.read, limit, readNames, unblanked, readName_bare bare stop]
  simp only [Option.bind_eq_bind, Option.bind_some]
  split <;> simp_all

end Key

/-! ## Lines -/

/-- A name with its value, as a statement makes it. -/
def pairOf (member : String × Document) : Pair := ⟨⟨[], member.1⟩, member.2⟩

/-- A table with its values, as statements make it. -/
def sectionOf (table : String × List (String × Document)) : Section :=
  ⟨⟨⟨[], table.1⟩, false⟩, table.2.map pairOf⟩

theorem Value.skipBlanks_of_read {found : Document × List Char} (reads : read text = some found) :
    skipBlanks text = text := by
  match text with
  | [] => rfl
  | c :: text =>
      cases blank : isBlank c with
      | false => simp [skipBlanks, blank]
      | true =>
          rw [read_blank blank] at reads
          cases reads

namespace Statement

variable {statements : List Statement}

/-- The lines of a text hold these statements, however much fuel is left over. -/
def Reads (text : List Char) (statements : List Statement) : Prop :=
  ∀ fuel, text.length ≤ fuel → readLines fuel text = some statements

theorem reads_nil : Reads [] [] := by
  intro fuel _
  cases fuel <;> rfl

theorem Reads.line {found : List Statement} (following : Reads rest statements)
    (shorter : rest.length < text.length)
    (line : read? (skipBlanks text) = some (found, '\n' :: rest)) :
    Reads text (found ++ statements) := by
  intro fuel enough
  match text, fuel with
  | c :: text, fuel + 1 =>
      have left : rest.length ≤ fuel := by
        simp only [List.length_cons] at shorter enough
        omega
      have ended : lineEnd? ('\n' :: rest) = some rest := rfl
      simp [readLines, line, ended, following fuel left]

theorem readPair_eq (bare : Key.IsBare name) {value : Document} {written : List Char}
    (writes : writeValue value = some written) (rest : List Char) :
    readPair (name.toList ++ ' ' :: '=' :: ' ' :: (written ++ '\n' :: rest)) =
      some (.pair (pairOf (name, value)), '\n' :: rest) := by
  have value := Value.read_writeValue writes rest
  have unblanked := Value.skipBlanks_of_read value
  have key := Key.read_bare bare (c := ' ') rfl ('=' :: ' ' :: (written ++ '\n' :: rest))
    (by simp [skipBlanks, isBlank])
  have equals : skipBlanks (' ' :: '=' :: ' ' :: (written ++ '\n' :: rest)) =
      '=' :: ' ' :: (written ++ '\n' :: rest) := rfl
  have behind : skipBlanks (' ' :: (written ++ '\n' :: rest)) = written ++ '\n' :: rest :=
    unblanked
  simp [readPair, key, equals, behind, value, pairOf]

theorem read?_pair (bare : Key.IsBare name) {value : Document} {line : List Char}
    (writes : writePair name value = some line) (rest : List Char) :
    read? (skipBlanks (line ++ rest)) = some ([.pair (pairOf (name, value))], '\n' :: rest) := by
  obtain ⟨written, ofValue, rfl⟩ := Option.map_eq_some_iff.mp writes
  have pair := readPair_eq bare ofValue rest
  obtain ⟨first, more, split, bareFirst⟩ := bare.eq_cons
  have noOther : first ≠ '#' ∧ first ≠ '\n' ∧ first ≠ '\r' ∧ first ≠ '[' :=
    ⟨ne_of_class bareFirst rfl, ne_of_class bareFirst rfl, ne_of_class bareFirst rfl,
      ne_of_class bareFirst rfl⟩
  rw [split] at pair ⊢
  have unblanked := Key.isBlank_of_isBare bareFirst
  simp only [List.cons_append] at pair
  simp [skipBlanks, unblanked, read?, noOther, pair]

theorem read?_header (bare : Key.IsBare name) (rest : List Char) :
    read? (skipBlanks (['['] ++ name.toList ++ [']', '\n'] ++ rest)) =
      some ([.header ⟨⟨[], name⟩, false⟩], '\n' :: rest) := by
  have key := Key.read_bare bare (c := ']') rfl ('\n' :: rest) (by simp [skipBlanks, isBlank])
  obtain ⟨first, more, split, bareFirst⟩ := bare.eq_cons
  have noBracket : first ≠ '[' := ne_of_class bareFirst rfl
  rw [split] at key ⊢
  simp only [List.cons_append] at key
  simp [skipBlanks, isBlank, read?, noBracket, key]

theorem Reads.pairs {members : List (String × Document)} (bare : ∀ m ∈ members, Key.IsBare m.1)
    {lines : List Char} (writes : writePairs members = some lines)
    (following : Reads rest statements) :
    Reads (lines ++ rest) ((members.map pairOf).map .pair ++ statements) := by
  induction members generalizing lines with
  | nil =>
      cases writes
      exact following
  | cons member members ih =>
      rw [List.forall_mem_cons] at bare
      obtain ⟨line, writesLine, tail⟩ := Option.bind_eq_some_iff.mp writes
      obtain ⟨more, writesMore, same⟩ := Option.bind_eq_some_iff.mp tail
      cases same
      have line := read?_pair bare.1 writesLine (more ++ rest)
      rw [← List.append_assoc] at line
      refine (ih bare.2 writesMore).line ?_ line
      obtain ⟨written, -, rfl⟩ := Option.map_eq_some_iff.mp writesLine
      simp only [List.length_append, List.length_cons, List.length_nil]
      omega

theorem Reads.blank (following : Reads rest statements) : Reads ('\n' :: rest) statements := by
  have shorter : rest.length < ('\n' :: rest).length := by simp
  exact following.line shorter rfl

/-- The statements that a table is written with. -/
def ofTable (table : String × List (String × Document)) : List Statement :=
  .header (sectionOf table).heading :: (sectionOf table).pairs.map .pair

theorem Reads.table {table : String × List (String × Document)} (bare : Key.IsBare table.1)
    (bares : ∀ m ∈ table.2, Key.IsBare m.1) {lines : List Char}
    (writes : writeSection table.1 table.2 = some lines) (following : Reads rest statements) :
    Reads (lines ++ rest) (ofTable table ++ statements) := by
  obtain ⟨pairs, writesPairs, rfl⟩ := Option.map_eq_some_iff.mp writes
  have line := read?_header bare (pairs ++ rest)
  rw [← List.append_assoc] at line
  refine (Reads.pairs bares writesPairs following).line ?_ line
  simp only [List.length_append, List.length_cons, List.length_nil]
  omega

theorem Reads.tables {tables : List (String × List (String × Document))}
    (bare : ∀ t ∈ tables, Key.IsBare t.1) (bares : ∀ t ∈ tables, ∀ m ∈ t.2, Key.IsBare m.1)
    {text : List Char} (writes : writeSections tables = some text) :
    Reads text (tables.flatMap ofTable) := by
  induction tables generalizing text with
  | nil =>
      cases writes
      exact reads_nil
  | cons table tables ih =>
      rw [List.forall_mem_cons] at bare bares
      match tables with
      | [] =>
          have last := Reads.table bare.1 bares.1 writes reads_nil
          simpa using last
      | next :: tables =>
          obtain ⟨first, writesFirst, tail⟩ := Option.bind_eq_some_iff.mp writes
          obtain ⟨more, writesMore, same⟩ := Option.bind_eq_some_iff.mp tail
          cases same
          have following := (ih bare.2 bares.2 writesMore).blank
          simpa using Reads.table bare.1 bares.1 writesFirst following

theorem sections_pairs (pairs : List Pair) (statements : List Statement) :
    sections (pairs.map .pair ++ statements) =
      (pairs ++ (sections statements).1, (sections statements).2) := by
  induction pairs with
  | nil => rfl
  | cons p pairs ih => simp [sections, ih]

theorem sections_tables (tables : List (String × List (String × Document))) :
    sections (tables.flatMap ofTable) = ([], tables.map sectionOf) := by
  induction tables with
  | nil => rfl
  | cons table tables ih =>
      rw [List.flatMap_cons, ofTable, List.cons_append, sections, sections_pairs, ih]
      simp

end Statement

/-! ## Tables -/

namespace Members

variable {held : Members}

theorem lookup_eq_none (fresh : name ∉ held.map Prod.fst) : held.lookup name = none := by
  rw [List.lookup_eq_none_iff]
  intro member isHeld
  have other : name ≠ member.1 := by
    rintro rfl
    exact fresh (List.mem_map_of_mem isHeld)
  simpa using other

/-- Puts that add one member each, under names that are not used twice, add them all. -/
theorem foldlM_put {α : Type} {put : Members → α → Option Members} (member : α → String × Node)
    {items : List α}
    (puts : ∀ held, ∀ a ∈ items, (member a).1 ∉ held.map Prod.fst →
      put held a = some (held ++ [member a]))
    (distinct : ((held ++ items.map member).map Prod.fst).Nodup) :
    items.foldlM put held = some (held ++ items.map member) := by
  induction items generalizing held with
  | nil => simp
  | cons a items ih =>
      have fresh : (member a).1 ∉ held.map Prod.fst := by
        rw [List.map_append, List.nodup_append] at distinct
        exact fun isHeld => distinct.2.2 _ isHeld _ (by simp) rfl
      rw [List.map_cons, List.append_cons] at distinct
      have more := ih (fun held b isItem => puts held b (List.mem_cons_of_mem a isItem)) distinct
      rw [List.foldlM_cons, puts held a List.mem_cons_self fresh]
      simpa using more

/-- The value of a pair, as its table holds it. -/
def valueOf (member : String × Document) : String × Node := (member.1, .value member.2)

/-- A table with its values, as the document holds it. -/
def tableOf (table : String × List (String × Document)) : String × Node :=
  (table.1, .table .header (table.2.map valueOf))

theorem putPairs_eq {members : List (String × Document)}
    (distinct : (members.map Prod.fst).Nodup) :
    putPairs [] (members.map pairOf) = some (members.map valueOf) := by
  have puts : ∀ held, ∀ m ∈ members, (valueOf m).1 ∉ held.map Prod.fst →
      putPair held (pairOf m) = some (held ++ [valueOf m]) := by
    intro held m _ fresh
    have absent : held.lookup m.1 = none := lookup_eq_none fresh
    simp [putPair, pairOf, descend, absent, valueOf]
  rw [putPairs, List.foldlM_map]
  refine foldlM_put valueOf puts ?_
  simpa [valueOf, Function.comp_def] using distinct

theorem build_eq {tables : List (String × List (String × Document))}
    (distinct : (tables.map Prod.fst).Nodup)
    (distincts : ∀ t ∈ tables, (t.2.map Prod.fst).Nodup) :
    build [] (tables.map sectionOf) = some (tables.map tableOf) := by
  have puts : ∀ held, ∀ t ∈ tables, (tableOf t).1 ∉ held.map Prod.fst →
      putSection held (sectionOf t) = some (held ++ [tableOf t]) := by
    intro held t isTable fresh
    have absent : held.lookup t.1 = none := lookup_eq_none fresh
    have filled := putPairs_eq (distincts t isTable)
    simp [putSection, sectionOf, descend, openTable, absent, filled, tableOf]
  show List.foldlM putSection [] (tables.map sectionOf) = _
  rw [List.foldlM_map]
  refine foldlM_put tableOf puts ?_
  simpa [tableOf, Function.comp_def] using distinct

end Members

theorem membersToDocument_values (members : List (String × Document)) :
    membersToDocument (members.map Members.valueOf) = members := by
  induction members with
  | nil => rfl
  | cons m members ih => simp [membersToDocument, Members.valueOf, Node.toDocument, ih]

theorem membersToDocument_tables (tables : List (String × List (String × Document))) :
    membersToDocument (tables.map Members.tableOf) =
      tables.map fun (name, members) => (name, .table members) := by
  induction tables with
  | nil => rfl
  | cons t tables ih =>
      simp [membersToDocument, Members.tableOf, Node.toDocument, membersToDocument_values, ih]

/-! ## Documents -/

/-- What is written begins with a header. -/
theorem skipMark_writeSections {tables : List (String × List (String × Document))}
    (writes : writeSections tables = some text) : skipMark text = text := by
  match tables with
  | [] =>
      cases writes
      rfl
  | [table] =>
      obtain ⟨lines, -, rfl⟩ := Option.map_eq_some_iff.mp writes
      rfl
  | table :: next :: tables =>
      obtain ⟨first, writesFirst, tail⟩ := Option.bind_eq_some_iff.mp writes
      obtain ⟨more, -, same⟩ := Option.bind_eq_some_iff.mp tail
      obtain ⟨lines, -, rfl⟩ := Option.map_eq_some_iff.mp writesFirst
      cases same
      rfl

/-- A document of sections is read back from its text, in the same order. -/
theorem read_writeSections {tables : List (String × List (String × Document))}
    (named : Named tables) (nameds : ∀ t ∈ tables, Named t.2)
    (writes : writeSections tables = some text) :
    read text = some (.table (tables.map fun (name, members) => (name, .table members))) := by
  have lines := Statement.Reads.tables named.bare (fun t isTable => (nameds t isTable).bare) writes
  have tree := Members.build_eq named.distinct fun t isTable => (nameds t isTable).distinct
  rw [read]
  simp [skipMark_writeSections writes, lines _ (Nat.le_refl _), Statement.sections_tables, tree,
    membersToDocument_tables]

theorem writePairs_isSome (members : List (String × Document)) :
    (writePairs members).isSome ↔ ∀ m ∈ members, (writeValue m.2).isSome := by
  induction members with
  | nil => simp [writePairs]
  | cons m members ih =>
      rw [List.forall_mem_cons, ← ih]
      cases line : writeValue m.2 <;> cases lines : writePairs members <;>
        simp [writePairs, writePair, line, lines]

/-- Sections have a text just if each of their values has one. -/
theorem writeSections_isSome (tables : List (String × List (String × Document))) :
    (writeSections tables).isSome ↔ ∀ t ∈ tables, ∀ m ∈ t.2, (writeValue m.2).isSome := by
  induction tables with
  | nil => simp [writeSections]
  | cons t tables ih =>
      rw [List.forall_mem_cons, ← ih, ← writePairs_isSome]
      match tables with
      | [] => simp [writeSections, writeSection]
      | next :: tables =>
          cases lines : writePairs t.2 <;> cases more : writeSections (next :: tables) <;>
            simp [writeSections, writeSection, lines, more]

end RoundTrip.Toml
