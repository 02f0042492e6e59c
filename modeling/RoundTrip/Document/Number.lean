import RoundTrip.Document
import RoundTrip.Text.Numeral

/-!
# Numbers in messages

A number without fraction and exponent is an integer if 64 bits have room for it,
and all others are doubles. The digits of a double are taken up as long as they
make a number of 64 bits, and the others only count for its exponent.
-/

namespace RoundTrip.Document

/-- Take up digits as long as the number stays below 64 bits, and keep those that
follow. -/
def takeUp (n : Nat) : List Char → Nat × List Char
  | [] => (n, [])
  | c :: rest =>
      let next := n * 10 + (Text.digitValue? 10 c).getD 0
      if next < UInt64.size then takeUp next rest else (n, c :: rest)

/-- The double with these digits before and after the point. -/
def ofDecimalDigits (negative : Bool) (whole fraction : List Char) (exponent : Int) : Double :=
  let (digits, more) := takeUp 0 whole
  let (digits, unused) := takeUp digits fraction
  Double.ofScaled negative digits (exponent + more.length - (fraction.length - unused.length))

/-- Integers are those of 64 bits, with or without a sign. A zero with a minus sign
is none of them. -/
def integer? (negative : Bool) (digits : List Char) : Option Document :=
  let magnitude := (Text.digits? 10 digits).getD 0
  if negative then
    if 0 < magnitude ∧ magnitude ≤ UInt64.size / 2 then some (.int (-magnitude)) else none
  else if magnitude < UInt64.size then some (.int magnitude)
  else none

/-- The power of ten behind the mark of an exponent. -/
def exponentOf : List Char → Int
  | _ :: '-' :: digits => -((Text.digits? 10 digits).getD 0 : Int)
  | _ :: '+' :: digits => (Text.digits? 10 digits).getD 0
  | _ :: digits => (Text.digits? 10 digits).getD 0
  | [] => 0

/-- The number that a well-formed text writes. -/
def ofNumber (text : List Char) : Document :=
  let negative := text.head? == some '-'
  let body := if negative then text.drop 1 else text
  let whole := body.takeWhile Char.isDigit
  match body.dropWhile Char.isDigit with
  | [] => (integer? negative whole).getD (.float (ofDecimalDigits negative whole [] 0))
  | '.' :: rest =>
      let fraction := rest.takeWhile Char.isDigit
      let exponent := exponentOf (rest.dropWhile Char.isDigit)
      .float (ofDecimalDigits negative whole fraction exponent)
  | exponent => .float (ofDecimalDigits negative whole [] (exponentOf exponent))

end RoundTrip.Document
