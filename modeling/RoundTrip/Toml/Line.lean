/-!
# Blanks, line ends and comments

What stands between the parts of a TOML document. On one line these are blanks
and a closing comment (`lineEnd?`); inside the brackets of an array they are also
line ends (`skipGap`).
-/

namespace RoundTrip.Toml

def isBlank (c : Char) : Bool := c = ' ' || c = '\t'

/-- Tabs and all characters but the control characters of ASCII. Comments hold
these, and so do quoted texts, apart from what their quotes give a meaning to. -/
def isPlain (c : Char) : Bool := c = '\t' || (32 ≤ c.toNat && c.toNat ≠ 127)

def skipBlanks (text : List Char) : List Char := text.dropWhile isBlank

/-- What follows a line end. -/
def newline? : List Char → Option (List Char)
  | '\n' :: rest => some rest
  | '\r' :: '\n' :: rest => some rest
  | _ => none

def skipComment : List Char → List Char
  | '#' :: rest => rest.dropWhile isPlain
  | text => text

/-- What follows the end of a line: blanks and a comment come before it, and the
end of the document ends a line too. -/
def lineEnd? (text : List Char) : Option (List Char) :=
  match skipComment (skipBlanks text) with
  | [] => some []
  | rest => newline? rest

/-- Skip blanks, line ends and comments. A carriage return alone and a control
character in a comment are left standing, where no value begins with them. -/
def skipGap : (comment : Bool) → List Char → List Char
  | _, '\n' :: rest => skipGap false rest
  | _, '\r' :: '\n' :: rest => skipGap false rest
  | true, c :: rest => if isPlain c then skipGap true rest else c :: rest
  | false, '#' :: rest => skipGap true rest
  | false, c :: rest => if isBlank c then skipGap false rest else c :: rest
  | _, [] => []

end RoundTrip.Toml
