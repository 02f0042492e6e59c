import RoundTrip.Document
import RoundTrip.Fault

/-!
# Faults as documents

A fault with a value is a table with one member, named for its kind; a fault
without one is its bare name. Faults of the stream itself are neither written nor
read.
-/

namespace RoundTrip.Fault

/-- The kinds that can be written, in the order of their declaration. -/
def writtenKinds : List String :=
  ["Framing", "ProtocolViolation", "OversizedFrame", "Timeout", "ConnectionClosed",
    "UnsupportedOperation", "ConfigError", "Custom"]

def toDocument (fault : Fault) : Except Mismatch Document :=
  let holding (value : Document) : Except Mismatch Document := .ok (.table [(fault.kind, value)])
  match fault with
  | io _ => .error (.unwritable "ProtocolError::Io")
  | framing reason => holding (.text reason)
  | violation id => holding (.int id.toNat)
  | oversized size => holding (.int size)
  | timeout => .ok (.text fault.kind)
  | closed => .ok (.text fault.kind)
  | unsupported reason => holding (.text reason)
  | config reason => holding (.text reason)
  | custom reason => holding (.text reason)

/-- Nothing is held beside the kind. -/
def nothing : Document → Except Mismatch Unit
  | .null => .ok ()
  | other => .error (.kind other.found "unit")

def readId (value : Document) : Except Mismatch CorrelationId :=
  (value.natural UInt32.size "u32").map UInt32.ofNat

/-- The fault of this kind with the value held beside it. -/
def ofMember (kind : String) (value : Document) : Except Mismatch Fault :=
  match kind with
  | "Framing" => value.string.map framing
  | "ProtocolViolation" => (readId value).map violation
  | "OversizedFrame" => (value.natural UInt64.size "usize").map oversized
  | "Timeout" => (nothing value).map fun _ => timeout
  | "ConnectionClosed" => (nothing value).map fun _ => closed
  | "UnsupportedOperation" => value.string.map unsupported
  | "ConfigError" => value.string.map config
  | "Custom" => value.string.map custom
  | _ => .error (.variant kind writtenKinds)

/-- The fault of this kind with no value beside it. -/
def ofName (kind : String) : Except Mismatch Fault :=
  if kind = timeout.kind then .ok timeout
  else if kind = closed.kind then .ok closed
  else if kind ∈ writtenKinds then .error (.kind .bareVariant "newtype variant")
  else .error (.variant kind writtenKinds)

def ofDocument : Document → Except Mismatch Fault
  | .text kind => ofName kind
  | .table [(kind, value)] => ofMember kind value
  | .table _ => .error (.value .table "map with a single key")
  | other => .error (.kind other.found "string or map")

end RoundTrip.Fault
