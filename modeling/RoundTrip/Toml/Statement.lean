import RoundTrip.Toml.Value

/-!
# Statements

A document is a sequence of lines: each is empty, a header or a key with its
value. `Toml.read` reads the statements and builds the document from them.
-/

namespace RoundTrip.Toml

inductive Statement
  | pair (p : Pair)
  | header (h : Heading)

namespace Statement

def readPair (text : List Char) : Option (Statement × List Char) := do
  let (key, rest) ← Key.read text
  match rest with
  | '=' :: rest =>
      let (value, rest) ← Value.read (skipBlanks rest)
      return (.pair ⟨key, value⟩, rest)
  | _ => none

/-- Read a statement; lines that hold none have nothing to read. -/
def read? (text : List Char) : Option (List Statement × List Char) :=
  match text with
  | [] | '#' :: _ | '\n' :: _ | '\r' :: _ => some ([], text)
  | '[' :: '[' :: rest => do
      let (key, rest) ← Key.read rest
      match rest with
      | ']' :: ']' :: rest => return ([.header ⟨key, true⟩], rest)
      | _ => none
  | '[' :: rest => do
      let (key, rest) ← Key.read rest
      match rest with
      | ']' :: rest => return ([.header ⟨key, false⟩], rest)
      | _ => none
  | text => do
      let (statement, rest) ← readPair text
      return ([statement], rest)

/-- Read lines up to the end of the text, of which each takes a character at
least. -/
def readLines : (fuel : Nat) → List Char → Option (List Statement)
  | _, [] => some []
  | 0, _ :: _ => none
  | fuel + 1, text => do
      let (found, rest) ← read? (skipBlanks text)
      let statements ← readLines fuel (← lineEnd? rest)
      return found ++ statements

/-- The pairs before the first header, and the sections. -/
def sections : List Statement → List Pair × List Section
  | [] => ([], [])
  | .pair p :: rest =>
      let (pairs, following) := sections rest
      (p :: pairs, following)
  | .header h :: rest =>
      let (pairs, following) := sections rest
      ([], ⟨h, pairs⟩ :: following)

end Statement

/-- A mark of the byte order may stand first. -/
def skipMark : List Char → List Char
  | '\ufeff' :: rest => rest
  | text => text

/-- The document that a text writes, if it is one. -/
def read (text : List Char) : Option Document := do
  let text := skipMark text
  let (pairs, sections) := Statement.sections (← Statement.readLines text.length text)
  return .table (membersToDocument (← Members.build pairs sections))

end RoundTrip.Toml
