import RoundTrip.Toml.Moment
import RoundTrip.Toml.Number
import RoundTrip.Toml.Tree

/-!
# Values

Texts, numbers, moments and truth values stand for themselves. Arrays may run over
several lines and end with a comma; tables between braces may do neither. Both can
be nested, up to a limit.
-/

namespace RoundTrip.Toml.Value

/-- The largest number of arrays and braces around a value. -/
def nesting : Nat := 79

def scalar? (text : List Char) : Option (Document × List Char) :=
  match text with
  | '"' :: _ | '\'' :: _ =>
      (Quoted.read text).map fun (s, rest) => (.text (String.ofList s), rest)
  | 't' :: 'r' :: 'u' :: 'e' :: rest => some (.bool true, rest)
  | 'f' :: 'a' :: 'l' :: 's' :: 'e' :: rest => some (.bool false, rest)
  | _ =>
      match Moment.read text with
      | some rest => some (.moment, rest)
      | none => Number.read text

mutual

/-- Read a value with at most `depth` arrays and braces inside one another. The
fuel bounds the steps and is taken from the length of the text. -/
def readNested (depth : Nat) : (fuel : Nat) → List Char → Option (Document × List Char)
  | 0, _ => none
  | fuel + 1, text =>
      match text, depth with
      | '[' :: rest, depth + 1 =>
          (readItems depth fuel (skipGap false rest)).map fun (items, rest) => (.list items, rest)
      | '\x7b' :: rest, depth + 1 =>
          match skipBlanks rest with
          | '\x7d' :: rest => some (.table [], rest)
          | _ => do
              let (pairs, rest) ← readPairs depth fuel rest
              return (← ofPairs pairs, rest)
      | text, _ => scalar? text

/-- The items of an array up to its end. -/
def readItems (depth : Nat) : (fuel : Nat) → List Char → Option (List Document × List Char)
  | 0, _ => none
  | _ + 1, ']' :: rest => some ([], rest)
  | fuel + 1, text => do
      let (item, rest) ← readNested depth fuel text
      match skipGap false rest with
      | ']' :: rest => return ([item], rest)
      | ',' :: rest =>
          let (items, rest) ← readItems depth fuel (skipGap false rest)
          return (item :: items, rest)
      | _ => none

/-- The pairs between braces up to the closing one. -/
def readPairs (depth : Nat) : (fuel : Nat) → List Char → Option (List Pair × List Char)
  | 0, _ => none
  | fuel + 1, text => do
      let (key, rest) ← Key.read text
      match rest with
      | '=' :: rest =>
          let (value, rest) ← readNested depth fuel (skipBlanks rest)
          match skipBlanks rest with
          | '\x7d' :: rest => return ([⟨key, value⟩], rest)
          | ',' :: rest =>
              let (pairs, rest) ← readPairs depth fuel rest
              return (⟨key, value⟩ :: pairs, rest)
          | _ => none
      | _ => none

end

/-- Every array and every pair takes at most two steps for a character. -/
def read (text : List Char) : Option (Document × List Char) :=
  readNested nesting (2 * text.length + 2) text

end RoundTrip.Toml.Value
