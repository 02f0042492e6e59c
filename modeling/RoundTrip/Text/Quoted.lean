import RoundTrip.Text.Printable

/-!
# Quoted text in messages

A text that a message quotes stands between double quotes. Tab, line feed,
carriage return, the quote and the backslash are escaped by one letter, NUL is
written as a zero, and every other character that does not print by itself is
written by its code point in hexadecimal.
-/

namespace RoundTrip.Text

def hexDigits (n : Nat) : List Char := Nat.toDigits 16 n

/-- A character as it stands inside quotes. -/
def escape (c : Char) : List Char :=
  if c = Char.ofNat 0 then ['\\', '0']
  else if c = '\t' then ['\\', 't']
  else if c = '\n' then ['\\', 'n']
  else if c = '\r' then ['\\', 'r']
  else if c = '"' then ['\\', '"']
  else if c = '\\' then ['\\', '\\']
  else if isPrintable c then [c]
  else ['\\', 'u', '\x7b'] ++ hexDigits c.toNat ++ ['\x7d']

def quote (text : String) : String :=
  String.ofList ('"' :: text.toList.flatMap escape ++ ['"'])

end RoundTrip.Text
