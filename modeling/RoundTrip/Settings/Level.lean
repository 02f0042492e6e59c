import RoundTrip.Text.Numeral

/-!
# Log levels

A level is written by its name, in any case, or by its rank from one (`error`) to
five (`trace`).
-/

namespace RoundTrip

inductive Level
  | error
  | warn
  | info
  | debug
  | trace
deriving DecidableEq, Repr

namespace Level

def all : List Level := [error, warn, info, debug, trace]

def name : Level → String
  | error => "error"
  | warn => "warn"
  | info => "info"
  | debug => "debug"
  | trace => "trace"

def rank : Level → Nat
  | error => 1
  | warn => 2
  | info => 3
  | debug => 4
  | trace => 5

/-- The level that a text names or ranks. Only the case of ASCII letters is
ignored, and nothing is trimmed. -/
def ofText? (text : String) : Option Level :=
  match Text.unsigned? UInt64.size text.toList with
  | some rank => all.find? (·.rank = rank)
  | none => all.find? (·.name.toList = text.toList.map Char.toLower)

end Level

end RoundTrip
