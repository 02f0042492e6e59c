/-!
# Numerals

`digits?` reads a non-empty run of decimal digits, `unsigned?` allows one plus
sign in front of it and refuses values that do not fit below a bound.
-/

namespace RoundTrip.Text

/-- The value of a digit of a base up to 36, in either case. -/
def digitValue? (base : Nat) (c : Char) : Option Nat :=
  let value :=
    if c.isDigit then c.toNat - '0'.toNat
    else if c.isLower then c.toNat - 'a'.toNat + 10
    else if c.isUpper then c.toNat - 'A'.toNat + 10
    else base
  if value < base then some value else none

/-- Continue a number with the digits of a text. -/
def extend? (base : Nat) (value : Nat) : List Char → Option Nat
  | [] => some value
  | c :: rest => do extend? base (value * base + (← digitValue? base c)) rest

/-- The number written by a non-empty run of digits. -/
def digits? (base : Nat) : List Char → Option Nat
  | [] => none
  | text => extend? base 0 text

/-- The number below `bound` that a decimal numeral with an optional plus sign
writes. -/
def unsigned? (bound : Nat) (text : List Char) : Option Nat :=
  let numeral := match text with
    | '+' :: rest => rest
    | _ => text
  match digits? 10 numeral with
  | some value => if value < bound then some value else none
  | none => none

end RoundTrip.Text
