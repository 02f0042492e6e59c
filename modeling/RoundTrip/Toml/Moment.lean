import RoundTrip.Text.Numeral

/-!
# Dates and times

A date, a time of day, or both with an optional offset. Days are counted as the
calendar does. No value is kept: it is enough to know where a moment ends.
-/

namespace RoundTrip.Toml.Moment

/-- A number of exactly this many decimal digits. -/
def digits? (count : Nat) (text : List Char) : Option (Nat × List Char) := do
  let run := text.take count
  if run.length = count ∧ run.all Char.isDigit then
    return (← Text.digits? 10 run, text.drop count)
  else none

/-- A number of two digits between two bounds. -/
def pair? (least most : Nat) (text : List Char) : Option (Nat × List Char) := do
  let (n, rest) ← digits? 2 text
  if least ≤ n ∧ n ≤ most then return (n, rest) else none

def expect? (c : Char) : List Char → Option (List Char)
  | a :: rest => if a = c then some rest else none
  | [] => none

def isLeapYear (year : Nat) : Bool := year % 4 == 0 && (year % 100 ≠ 0 || year % 400 == 0)

def daysIn (year month : Nat) : Nat :=
  if month = 2 then (if isLeapYear year then 29 else 28)
  else if month = 4 ∨ month = 6 ∨ month = 9 ∨ month = 11 then 30
  else 31

def date? (text : List Char) : Option (List Char) := do
  let (year, rest) ← digits? 4 text
  let (month, rest) ← pair? 1 12 (← expect? '-' rest)
  let (_, rest) ← pair? 1 (daysIn year month) (← expect? '-' rest)
  return rest

/-- A fraction of a second is optional. -/
def skipFraction : List Char → List Char
  | '.' :: c :: rest => if c.isDigit then rest.dropWhile Char.isDigit else '.' :: c :: rest
  | text => text

/-- The sixtieth second is a leap second. -/
def time? (text : List Char) : Option (List Char) := do
  let (_, rest) ← pair? 0 23 text
  let (_, rest) ← pair? 0 59 (← expect? ':' rest)
  let (_, rest) ← pair? 0 60 (← expect? ':' rest)
  return skipFraction rest

def offset? : List Char → Option (List Char)
  | 'Z' :: rest | 'z' :: rest => some rest
  | '+' :: rest | '-' :: rest => do
      let (_, rest) ← pair? 0 23 rest
      let (_, rest) ← pair? 0 59 (← expect? ':' rest)
      return rest
  | _ => none

/-- A time after a date is optional, and so is its offset. -/
def skipTime (text : List Char) : List Char :=
  let after (rest : List Char) : List Char :=
    match time? rest with
    | some rest => (offset? rest).getD rest
    | none => text
  match text with
  | 'T' :: rest | 't' :: rest | ' ' :: rest => after rest
  | _ => text

/-- What follows the date or the time at the front of a text. -/
def read (text : List Char) : Option (List Char) :=
  match date? text with
  | some rest => some (skipTime rest)
  | none => time? text

end RoundTrip.Toml.Moment
