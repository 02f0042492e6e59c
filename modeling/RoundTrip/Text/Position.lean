import RoundTrip.Text.Numeral

/-!
# Positions in messages

A message may end in the position of what it is about, a line and a column. Line
zero stands for no position, which a message need not say (`settlePosition`).
-/

namespace RoundTrip.Text

/-- A text without the digits that it ends in, and those digits. -/
def splitDigits (text : List Char) : List Char × List Char :=
  let back := text.reverse
  ((back.dropWhile Char.isDigit).reverse, (back.takeWhile Char.isDigit).reverse)

/-- What stands in front of a mark at the end. -/
def before? (mark text : List Char) : Option (List Char) :=
  if mark.isSuffixOf text then some (text.take (text.length - mark.length)) else none

/-- The position at the end of a message, and the message without it. -/
def position? (message : List Char) : Option (List Char × Nat × Nat) := do
  let (front, column) := splitDigits message
  let (front, line) := splitDigits (← before? " column ".toList front)
  let front ← before? " at line ".toList front
  return (front, ← unsigned? UInt64.size line, ← unsigned? UInt64.size column)

/-- The message with its position written the usual way, or left out if there is
none. -/
def settlePosition (message : String) : String :=
  match position? message.toList with
  | none => message
  | some (front, line, column) =>
      if line = 0 then String.ofList front
      else
        String.ofList front ++ " at line " ++ toString line ++ " column " ++ toString column

end RoundTrip.Text
