import RoundTrip.Toml.Quoted

/-!
# Keys

A key is one name or several with dots between them, each bare or quoted on one
line. Only its last name is the name of a value; the others lead to its table.
-/

namespace RoundTrip.Toml

structure Key where
  path : List String
  name : String
deriving DecidableEq, Repr

namespace Key

/-- The largest number of names in a key. -/
def limit : Nat := 79

def isBare (c : Char) : Bool := c.isAlphanum || c = '_' || c = '-'

def readName : List Char → Option (String × List Char)
  | '"' :: rest =>
      (Quoted.readEscaped false false rest).map fun (text, rest) => (String.ofList text, rest)
  | '\'' :: rest =>
      (Quoted.readLiteral false rest).map fun (text, rest) => (String.ofList text, rest)
  | text =>
      match text.takeWhile isBare with
      | [] => none
      | name => some (String.ofList name, text.dropWhile isBare)

/-- At most `count` names with dots between them, and blanks around each. -/
def readNames : (count : Nat) → List Char → Option (Key × List Char)
  | 0, _ => none
  | count + 1, text => do
      let (name, rest) ← readName (skipBlanks text)
      match skipBlanks rest with
      | '.' :: rest =>
          let (key, rest) ← readNames count rest
          return ({ key with path := name :: key.path }, rest)
      | rest => return (⟨[], name⟩, rest)

def read (text : List Char) : Option (Key × List Char) := readNames limit text

end Key

end RoundTrip.Toml
