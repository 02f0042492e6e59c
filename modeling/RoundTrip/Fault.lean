/-!
# Faults

Everything that can go wrong on a stream or in the settings, as causes. Three of
them (`violation`, `oversized` and the closed or failed stream) end a stream;
the others concern one request or one payload only. `Fault.message` is the only
place where a fault is put into words.
-/

namespace RoundTrip

/-- The name of a request: the first four bytes of its payload as a word. -/
abbrev CorrelationId := UInt32

inductive Fault
  | io (reason : String)
  | framing (reason : String)
  | violation (id : CorrelationId)
  | oversized (size : Nat)
  | timeout
  | closed
  | unsupported (reason : String)
  | config (reason : String)
  | custom (reason : String)
deriving DecidableEq, Repr

namespace Fault

/-- The name of the kind of a fault, as it appears in its written form. -/
def kind : Fault → String
  | io _ => "Io"
  | framing _ => "Framing"
  | violation _ => "ProtocolViolation"
  | oversized _ => "OversizedFrame"
  | timeout => "Timeout"
  | closed => "ConnectionClosed"
  | unsupported _ => "UnsupportedOperation"
  | config _ => "ConfigError"
  | custom _ => "Custom"

def message : Fault → String
  | io reason => "I/O error: " ++ reason
  | framing reason => "Framing error: " ++ reason
  | violation id =>
      "Protocol violation: unknown or expired perf data in response: " ++ toString id.toNat
  | oversized size => "Frame too large: " ++ toString size ++ " bytes"
  | timeout => "Perf request timed out"
  | closed => "Connection closed"
  | unsupported reason => "Unsupported operation: " ++ reason
  | config reason => "Configuration error: " ++ reason
  | custom reason => "Custom error: " ++ reason

/-- After a fatal fault the stream carries nothing that can be trusted. -/
def isFatal : Fault → Bool
  | io _ | violation _ | oversized _ | closed => true
  | framing _ | timeout | unsupported _ | config _ | custom _ => false

/-- The stream ended inside a frame. -/
def truncated : Fault := io "bytes remaining on stream"

end Fault

end RoundTrip
