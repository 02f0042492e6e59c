import RoundTrip.Text.Numeral
import RoundTrip.Toml.Line

/-!
# Quoted texts

A text stands between double quotes, where a backslash begins an escape, or
between single quotes, where every character stands for itself. Three quotes
instead of one open a block, which may hold line ends and single quotes of its
own kind. `Quoted.read` reads all four forms; `Quoted.write` picks the first form
that fits.
-/

namespace RoundTrip.Toml.Quoted

/-- A text that was read, and what follows it. -/
abbrev Parsed := Option (List Char × List Char)

def push (c : Char) (parsed : Parsed) : Parsed :=
  parsed.map fun (text, rest) => (c :: text, rest)

/-! ## Reading -/

/-- The character that stands after a backslash for another one. -/
def escaped? : Char → Option Char
  | 'b' => some '\x08'
  | 't' => some '\t'
  | 'n' => some '\n'
  | 'f' => some '\x0c'
  | 'r' => some '\r'
  | '"' => some '"'
  | '\\' => some '\\'
  | _ => none

/-- The character with this code point in hexadecimal. -/
def scalar? (digits : List Char) : Option Char := do
  let code ← Text.digits? 16 digits
  if code.isValidChar then some (Char.ofNat code) else none

/-- A block ends at its first three quotes in a row; up to two more belong to its
text. -/
def blockEnd (quote : Char) : List Char → List Char × List Char
  | a :: b :: rest =>
      if a ≠ quote then ([], a :: b :: rest)
      else if b ≠ quote then ([quote], b :: rest)
      else ([quote, quote], rest)
  | [a] => if a = quote then ([quote], []) else ([], [a])
  | [] => ([], [])

/-- Nothing but blanks before the end of the line. -/
def isLineEnd (text : List Char) : Bool := (newline? (skipBlanks text)).isSome

/-- Read up to the closing double quotes. A backslash at the end of a line of a
block removes all blanks and line ends that follow (`trimming`). -/
def readEscaped (block : Bool) : (trimming : Bool) → List Char → Parsed
  | _, [] => none
  | trimming, c :: rest =>
      if c = '"' then
        if block then
          match rest with
          | '"' :: '"' :: rest => some (blockEnd '"' rest)
          | _ => push '"' (readEscaped block false rest)
        else some ([], rest)
      else if c = '\\' then
        if block && isLineEnd rest then readEscaped block true rest
        else
          match rest with
          | 'u' :: a :: b :: c :: d :: rest =>
              (scalar? [a, b, c, d]).bind fun x => push x (readEscaped block false rest)
          | 'U' :: a :: b :: c :: d :: e :: f :: g :: h :: rest =>
              (scalar? [a, b, c, d, e, f, g, h]).bind fun x =>
                push x (readEscaped block false rest)
          | e :: rest => (escaped? e).bind fun x => push x (readEscaped block false rest)
          | [] => none
      else if c = '\n' then
        if trimming then readEscaped block true rest
        else if block then push '\n' (readEscaped block false rest)
        else none
      else if c = '\r' then
        match rest with
        | '\n' :: rest =>
            if trimming then readEscaped block true rest
            else if block then push '\n' (readEscaped block false rest)
            else none
        | _ => none
      else if trimming && isBlank c then readEscaped block true rest
      else if isPlain c then push c (readEscaped block false rest)
      else none

/-- A quote ends the text, or three of them do. -/
theorem readEscaped_quote (block : Bool) (rest : List Char) :
    readEscaped block false ('"' :: rest) =
      if block then
        match rest with
        | '"' :: '"' :: rest => some (blockEnd '"' rest)
        | _ => push '"' (readEscaped block false rest)
      else some ([], rest) := by
  rw [readEscaped.eq_def]
  exact if_pos rfl

/-- Read up to the closing single quotes. -/
def readLiteral (block : Bool) : List Char → Parsed
  | [] => none
  | c :: rest =>
      if c = '\'' then
        if block then
          match rest with
          | '\'' :: '\'' :: rest => some (blockEnd '\'' rest)
          | _ => push '\'' (readLiteral block rest)
        else some ([], rest)
      else if c = '\n' then
        if block then push '\n' (readLiteral block rest) else none
      else if c = '\r' then
        match rest with
        | '\n' :: rest => if block then push '\n' (readLiteral block rest) else none
        | _ => none
      else if isPlain c then push c (readLiteral block rest)
      else none

/-- A quote ends the text, or three of them do. -/
theorem readLiteral_quote (block : Bool) (rest : List Char) :
    readLiteral block ('\'' :: rest) =
      if block then
        match rest with
        | '\'' :: '\'' :: rest => some (blockEnd '\'' rest)
        | _ => push '\'' (readLiteral block rest)
      else some ([], rest) := by
  rw [readLiteral.eq_def]
  exact if_pos rfl

/-- A line end right after the opening quotes of a block is not part of it. -/
def skipFirstLineEnd (text : List Char) : List Char := (newline? text).getD text

def read : List Char → Parsed
  | '"' :: '"' :: '"' :: rest => readEscaped true false (skipFirstLineEnd rest)
  | '"' :: rest => readEscaped false false rest
  | '\'' :: '\'' :: '\'' :: rest => readLiteral true (skipFirstLineEnd rest)
  | '\'' :: rest => readLiteral false rest
  | _ => none

/-! ## Writing -/

def isControl (c : Char) : Bool := c.toNat < 32 || c.toNat = 127

/-- Control characters that only an escape can write. -/
def isHidden (c : Char) : Bool := isControl c && c ≠ '\t' && c ≠ '\n'

/-- Three of these in a row, after `seen` of them. -/
def hasTriple (quote : Char) : (seen : Nat) → List Char → Bool
  | _, [] => false
  | seen, c :: rest =>
      if c = quote then seen == 2 || hasTriple quote (seen + 1) rest
      else hasTriple quote 0 rest

def hex (n : Nat) : Char := if n < 10 then Char.ofNat (48 + n) else Char.ofNat (55 + n)

/-- What follows the backslash of an escape. -/
def escape? (c : Char) : Option (List Char) :=
  if c = '\x08' then some ['b']
  else if c = '\t' then some ['t']
  else if c = '\n' then some ['n']
  else if c = '\x0c' then some ['f']
  else if c = '\r' then some ['r']
  else if c = '\\' then some ['\\']
  else if isControl c then some ['u', '0', '0', hex (c.toNat / 16), hex (c.toNat % 16)]
  else none

/-- The characters as they stand between double quotes. Of quotes in a row in a
block, every third is escaped (`seen` counts those before). -/
def writeEscaped (block : Bool) : (seen : Nat) → List Char → List Char
  | _, [] => []
  | seen, c :: rest =>
      if c = '"' then
        if block && seen ≠ 2 then '"' :: writeEscaped block (seen + 1) rest
        else '\\' :: '"' :: writeEscaped block 0 rest
      else if block && c = '\n' then '\n' :: writeEscaped block 0 rest
      else
        match escape? c with
        | some sequence => '\\' :: sequence ++ writeEscaped block 0 rest
        | none => c :: writeEscaped block 0 rest

/-- The four ways to quote a text. -/
inductive Quotation
  | escaped
  | literal
  | escapedBlock
  | literalBlock
deriving DecidableEq, Repr

/-- The first way that fits; where none does, double quotes, in a block if there
is a line end. -/
def choose (text : List Char) : Quotation :=
  let hidden := text.any isHidden
  let broken := text.contains '\n'
  if !hidden && !text.contains '\\' && !text.contains '"' && !broken then .escaped
  else if !hidden && !text.contains '\'' && !broken then .literal
  else if !hidden && !text.contains '\\' && !hasTriple '"' 0 text then .escapedBlock
  else if !hidden && !hasTriple '\'' 0 text then .literalBlock
  else if broken then .escapedBlock
  else .escaped

/-- Nothing is lost if a block begins with a line end of its own. -/
def firstLineEnd (text : List Char) : List Char := if text.contains '\n' then ['\n'] else []

def writeAs (text : List Char) : Quotation → List Char
  | .escaped => ['"'] ++ writeEscaped false 0 text ++ ['"']
  | .literal => ['\''] ++ text ++ ['\'']
  | .escapedBlock =>
      ['"', '"', '"'] ++ firstLineEnd text ++ writeEscaped true 0 text ++ ['"', '"', '"']
  | .literalBlock =>
      ['\'', '\'', '\''] ++ firstLineEnd text ++ text ++ ['\'', '\'', '\'']

def write (text : List Char) : List Char := writeAs text (choose text)

end RoundTrip.Toml.Quoted
