import RoundTrip.Document
import RoundTrip.Toml.Key

/-!
# Trees of tables

Statements build a tree of tables. Each table knows how it came about, because
this decides who may add to it: a table with a header of its own, one that is only
implied by the header of a table below it, or one that dotted keys built. A table
between braces is a value like any other and stays as it is.

Names that a table already holds are refused. The order is that in which tables
were opened, where a header for an implied table opens it anew.
-/

namespace RoundTrip.Toml

/-- How a table came about. -/
inductive Origin
  | header
  | implied
  | dotted
deriving DecidableEq, Repr

inductive Node
  | value (v : Document)
  | table (origin : Origin) (members : List (String × Node))
  | tables (earlier : List (List (String × Node))) (last : List (String × Node))

abbrev Members := List (String × Node)

/-- One key with its value. -/
structure Pair where
  key : Key
  value : Document

/-- A header opens one table, or (`repeated`) the next of several. -/
structure Heading where
  key : Key
  repeated : Bool
deriving DecidableEq, Repr

structure Section where
  heading : Heading
  pairs : List Pair

namespace Members

/-- Change what a name stands for, in its place, or put it at the end. -/
def set (name : String) (node : Node) : Members → Members
  | [] => [(name, node)]
  | (other, held) :: rest =>
      if other = name then (name, node) :: rest else (other, held) :: set name node rest

def erase (name : String) (members : Members) : Members := members.filter (·.1 ≠ name)

/-- Change the table at the end of a path. Tables that are missing on the way are
made, as `fresh`; a path of dotted keys (`fresh = .dotted`) does not enter tables
with headers, and a path through several tables goes to the last of them. -/
def descend (fresh : Origin) (change : Origin → Members → Option Members) :
    (path : List String) → Origin → Members → Option Members
  | [], origin, members => change origin members
  | name :: path, _, members =>
      match members.lookup name with
      | none => do
          return set name (.table fresh (← descend fresh change path fresh [])) members
      | some (.table origin below) =>
          if fresh = .dotted ∧ origin = .header then none
          else do
            let below ← descend fresh change path origin below
            return set name (.table origin below) members
      | some (.tables earlier last) => do
          return set name (.tables earlier (← descend fresh change path .header last)) members
      | some (.value _) => none

/-- A value can be added only to a table that its own key built, or to the one
whose header stands above. -/
def putPair (members : Members) (pair : Pair) : Option Members :=
  let path := pair.key.path
  let put (origin : Origin) (below : Members) : Option Members :=
    if (origin == .dotted) == path.isEmpty then none
    else if (below.lookup pair.key.name).isSome then none
    else some (below ++ [(pair.key.name, .value pair.value)])
  descend .dotted put path .header members

def putPairs (members : Members) (pairs : List Pair) : Option Members :=
  pairs.foldlM putPair members

/-- Open the table of a header among those of its parent and fill it. -/
def openTable (name : String) (pairs : List Pair) (members : Members) : Option Members :=
  match members.lookup name with
  | none => do return members ++ [(name, .table .header (← putPairs [] pairs))]
  | some (.table .implied held) => do
      return erase name members ++ [(name, .table .header (← putPairs held pairs))]
  | some _ => none

/-- Add one more table to those of this name. -/
def openNext (name : String) (pairs : List Pair) (members : Members) : Option Members :=
  match members.lookup name with
  | none => do return members ++ [(name, .tables [] (← putPairs [] pairs))]
  | some (.tables earlier last) => do
      return set name (.tables (earlier ++ [last]) (← putPairs [] pairs)) members
  | some _ => none

def putSection (members : Members) (s : Section) : Option Members :=
  let key := s.heading.key
  let fill := if s.heading.repeated then openNext else openTable
  descend .implied (fun _ below => fill key.name s.pairs below) key.path .header members

/-- The tree of a document: pairs before the first header, then sections. -/
def build (pairs : List Pair) (sections : List Section) : Option Members := do
  sections.foldlM putSection (← putPairs [] pairs)

end Members

mutual

def Node.toDocument : Node → Document
  | .value v => v
  | .table _ members => .table (membersToDocument members)
  | .tables earlier last => .list (tablesToDocument earlier ++ [.table (membersToDocument last)])

def membersToDocument : List (String × Node) → List (String × Document)
  | [] => []
  | (name, node) :: rest => (name, node.toDocument) :: membersToDocument rest

def tablesToDocument : List (List (String × Node)) → List Document
  | [] => []
  | members :: rest => .table (membersToDocument members) :: tablesToDocument rest

end

/-- The table between braces that these pairs make up. -/
def ofPairs (pairs : List Pair) : Option Document := do
  return .table (membersToDocument (← Members.putPairs [] pairs))

end RoundTrip.Toml
