import RoundTrip.Toml.Number
import RoundTrip.Toml.Quoted

/-!
# Writing sections

A document of tables, each with single values only, is written table by table: a
header, a line for each value, and an empty line between tables.
-/

namespace RoundTrip.Toml

/-- A single value, if it has a written form. -/
def writeValue : Document → Option (List Char)
  | .int n => if Number.isInteger n then some (toString n).toList else none
  | .text s => some (Quoted.write s.toList)
  | .bool b => some (toString b).toList
  | _ => none

def writePair (name : String) (value : Document) : Option (List Char) :=
  (writeValue value).map fun written => name.toList ++ [' ', '=', ' '] ++ written ++ ['\n']

def writePairs : List (String × Document) → Option (List Char)
  | [] => some []
  | (name, value) :: rest => do
      return (← writePair name value) ++ (← writePairs rest)

def writeSection (name : String) (members : List (String × Document)) : Option (List Char) :=
  (writePairs members).map fun lines => ['['] ++ name.toList ++ [']', '\n'] ++ lines

def writeSections : List (String × List (String × Document)) → Option (List Char)
  | [] => some []
  | [(name, members)] => writeSection name members
  | (name, members) :: rest => do
      return (← writeSection name members) ++ ['\n'] ++ (← writeSections rest)

end RoundTrip.Toml
