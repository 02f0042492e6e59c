import RoundTrip.Double.Shortest
import RoundTrip.Text.Position
import RoundTrip.Text.Quoted

/-!
# Documents and how they fail to fit

A document is a value as data formats know it: settings files and messages are
read from documents and written to them. What a reader finds in the wrong place
is a `Mismatch`, put into words once.

* `Document.natural`, `Document.string` and `Document.flag` read single values.
* `Record.read` reads a record, from a table by the names of its fields or from a
  list by their order.
-/

namespace RoundTrip

/-- A value of a data format. A date or a time is kept as `moment`: nothing here
asks which one it is. -/
inductive Document
  | null
  | bool (b : Bool)
  | int (n : Int)
  | float (x : Double)
  | text (s : String)
  | moment
  | list (items : List Document)
  | table (members : List (String × Document))
deriving Inhabited, Repr

/-- What a reader finds, as far as a message shows it. -/
inductive Found
  | null
  | bool (b : Bool)
  | int (n : Int)
  | float (x : Double)
  | text (s : String)
  | list
  | table
  | bareVariant
deriving DecidableEq, Repr

namespace Document

/-- A moment counts as a table. -/
def found : Document → Found
  | null => .null
  | bool b => .bool b
  | int n => .int n
  | float x => .float x
  | text s => .text s
  | list _ => .list
  | moment | table _ => .table

end Document

/-- How a document can fail to be what was asked for. -/
inductive Mismatch
  | kind (found : Found) (expected : String)
  | value (found : Found) (expected : String)
  | length (count : Nat) (expected : String)
  | missing (field : String)
  | variant (name : String) (known : List String)
  | level (text : String)
  | unwritable (variant : String)
deriving DecidableEq, Repr

/-- What differs between the formats that documents come from. -/
structure Form where
  floats : Double.Style
  /-- A list may hold more items than its record has fields. -/
  extraItems : Bool
  /-- What a message ends in may be a position. -/
  positions : Bool
deriving DecidableEq, Repr

namespace Form

def json : Form := ⟨.scientific, false, true⟩

def toml : Form := ⟨.plain, true, false⟩

end Form

namespace Found

def describe (form : Form) : Found → String
  | null => "null"
  | bool b => "boolean `" ++ toString b ++ "`"
  | int n => "integer `" ++ toString n ++ "`"
  | float x => "floating point `" ++ x.text form.floats ++ "`"
  | text s => "string " ++ Text.quote s
  | list => "sequence"
  | table => "map"
  | bareVariant => "unit variant"

end Found

namespace Mismatch

def ticked (name : String) : String := "`" ++ name ++ "`"

def wording (form : Form) : Mismatch → String
  | kind found expected => "invalid type: " ++ found.describe form ++ ", expected " ++ expected
  | value found expected => "invalid value: " ++ found.describe form ++ ", expected " ++ expected
  | length count expected => "invalid length " ++ toString count ++ ", expected " ++ expected
  | missing field => "missing field " ++ ticked field
  | variant name known =>
      "unknown variant " ++ ticked name ++ ", expected one of "
        ++ ", ".intercalate (known.map ticked)
  | level text => "Invalid log level: " ++ text
  | unwritable name => "the enum variant " ++ name ++ " cannot be serialized"

def message (form : Form) (mismatch : Mismatch) : String :=
  let wording := mismatch.wording form
  if form.positions then Text.settlePosition wording else wording

end Mismatch

namespace Document

/-- A whole number from zero up to below `bound`. -/
def natural (bound : Nat) (expected : String) : Document → Except Mismatch Nat
  | int (.ofNat n) =>
      if n < bound then .ok n else .error (.value (.int n) expected)
  | int n => .error (.value (.int n) expected)
  | other => .error (.kind other.found expected)

def string : Document → Except Mismatch String
  | text s => .ok s
  | other => .error (.kind other.found "a string")

def flag : Document → Except Mismatch Bool
  | bool b => .ok b
  | other => .error (.kind other.found "a boolean")

end Document

/-- A field of a record: `put` reads a document and keeps the value in a draft of
the record. -/
structure Field (δ : Type) where
  name : String
  required : Bool
  put : Document → δ → Except Mismatch δ

/-- A record as documents hold it: the fields in the order of their declaration,
collected in drafts. -/
structure Record (δ : Type) where
  title : String
  fields : List (Field δ)
  blank : δ

namespace Record

variable {δ : Type}

/-- Put the members of a table into a draft, in the order in which they stand.
Members that no field is named for are passed over. -/
def putMembers (fields : List (Field δ)) : List (String × Document) → δ → Except Mismatch δ
  | [], draft => .ok draft
  | (name, value) :: rest, draft =>
      match fields.find? (·.name = name) with
      | none => putMembers fields rest draft
      | some field =>
          match field.put value draft with
          | .ok next => putMembers fields rest next
          | .error mismatch => .error mismatch

/-- Put the items of a list into a draft, one for each field in turn. -/
def putItems (form : Form) (title : String) (total : Nat) :
    List (Field δ) → List Document → (count : Nat) → δ → Except Mismatch δ
  | field :: fields, item :: items, count, draft =>
      match field.put item draft with
      | .ok next => putItems form title total fields items (count + 1) next
      | .error mismatch => .error mismatch
  | field :: fields, [], count, draft =>
      if field.required then
        .error (.length count
          ("struct " ++ title ++ " with " ++ toString total ++ " elements"))
      else putItems form title total fields [] count draft
  | [], [], _, draft => .ok draft
  | [], extra, count, draft =>
      if form.extraItems then .ok draft
      else .error (.length (count + extra.length) "fewer elements in array")

/-- Read a draft of the record. Which fields it lacks is for `Record.need` to say. -/
def read (form : Form) (record : Record δ) : Document → Except Mismatch δ
  | .table members => putMembers record.fields members record.blank
  | .moment => putMembers record.fields [] record.blank
  | .list items =>
      putItems form record.title record.fields.length record.fields items 0 record.blank
  | other => .error (.kind other.found ("struct " ++ record.title))

/-- The value of a field that must be there. -/
def need {α : Type} (name : String) : Option α → Except Mismatch α
  | some a => .ok a
  | none => .error (.missing name)

end Record

end RoundTrip
