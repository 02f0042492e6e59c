import RoundTrip.Document
import RoundTrip.Text.Numeral

/-!
# Numbers

Integers of 64 bits, in decimal with a sign or in a base of two, eight or sixteen
without one, and floating point numbers. An underscore may stand between two
digits. What is left standing after a number decides whether it was one.
-/

namespace RoundTrip.Toml.Number

/-- The longest run of digits of a base, single underscores between them left
out. -/
def digits (base : Nat) : List Char → List Char × List Char
  | '_' :: c :: rest =>
      if (Text.digitValue? base c).isSome then
        let (run, rest) := digits base rest
        (c :: run, rest)
      else ([], '_' :: c :: rest)
  | c :: rest =>
      if (Text.digitValue? base c).isSome then
        let (run, rest) := digits base rest
        (c :: run, rest)
      else ([], c :: rest)
  | [] => ([], [])

/-- A run that begins with a digit. -/
def digits? (base : Nat) : List Char → Option (List Char × List Char)
  | '_' :: _ => none
  | text =>
      match digits base text with
      | ([], _) => none
      | found => some found

/-- A whole number: zero alone, or a run that does not begin with zero. -/
def whole? : List Char → Option (List Char × List Char)
  | '0' :: rest => some (['0'], rest)
  | text => digits? 10 text

/-- A leading sign, and what follows it. -/
def signed : List Char → Bool × List Char
  | '-' :: rest => (true, rest)
  | '+' :: rest => (false, rest)
  | text => (false, text)

def valueOf (base : Nat) (run : List Char) : Nat := (Text.extend? base 0 run).getD 0

/-- The first number that 64 bits with a sign have no room for. -/
def bound : Nat := 9223372036854775808

/-- The numbers of 64 bits with a sign are the integers of the format. -/
def isInteger : Int → Bool
  | .ofNat n => n < bound
  | .negSucc n => n < bound

def integer? (negative : Bool) (magnitude : Nat) : Option Document :=
  let n : Int := if negative then -magnitude else magnitude
  if isInteger n then some (.int n) else none

def based? (base : Nat) (text : List Char) : Option (Document × List Char) := do
  let (run, rest) ← digits? base text
  return (← integer? false (valueOf base run), rest)

/-- An exponent of ten, if a mark announces one. -/
def exponent? (text : List Char) : Option (Int × List Char) :=
  let after (rest : List Char) : Option (Int × List Char) := do
    let (negative, rest) := signed rest
    let (run, rest) ← digits? 10 rest
    let magnitude : Int := valueOf 10 run
    return (if negative then -magnitude else magnitude, rest)
  match text with
  | 'e' :: rest => after rest
  | 'E' :: rest => after rest
  | _ => some (0, text)

/-- The nearest double. Beyond the largest one there is no positive number, while
a negative one becomes infinite. -/
def float? (negative : Bool) (run : List Char) (exponent : Int) : Option Document :=
  let x := Double.ofDecimal negative (valueOf 10 run) exponent
  if x.isFinite || negative then some (.float x) else none

/-- What may follow the whole part of a number. -/
def afterWhole? (negative : Bool) (whole : List Char) :
    List Char → Option (Document × List Char)
  | '.' :: rest => do
      let (fraction, rest) ← digits? 10 rest
      let (exponent, rest) ← exponent? rest
      return (← float? negative (whole ++ fraction) (exponent - fraction.length), rest)
  | 'e' :: rest => do
      let (exponent, rest) ← exponent? ('e' :: rest)
      return (← float? negative whole exponent, rest)
  | 'E' :: rest => do
      let (exponent, rest) ← exponent? ('E' :: rest)
      return (← float? negative whole exponent, rest)
  | rest => (integer? negative (valueOf 10 whole)).map fun n => (n, rest)

def decimal? (text : List Char) : Option (Document × List Char) :=
  match signed text with
  | (negative, 'i' :: 'n' :: 'f' :: rest) => some (.float (Double.infinity negative), rest)
  | (_, 'n' :: 'a' :: 'n' :: rest) => some (.float Double.nan, rest)
  | (negative, text) => do
      let (whole, rest) ← whole? text
      afterWhole? negative whole rest

def read : List Char → Option (Document × List Char)
  | '0' :: 'x' :: rest => based? 16 rest
  | '0' :: 'o' :: rest => based? 8 rest
  | '0' :: 'b' :: rest => based? 2 rest
  | text => decimal? text

end RoundTrip.Toml.Number
