import RoundTrip.Frame
import RoundTrip.Payload
import RoundTrip.Settings.Level
import RoundTrip.Text.Blank

/-!
# Settings

The settings of an exchange (how much each side sends, how long a request may
take, how large a frame may be) and of the log. `Exchange.problems` says what is
wrong with an exchange; one without problems can be bound to streams
(`Exchange.accept`), and its frames fit.
-/

namespace RoundTrip

/-- The settings that both sides of a stream agree on. Times are nanoseconds. -/
structure Exchange where
  uploadSize : Nat := 10 * 1024 * 1024
  downloadSize : Nat := 5 * 1024 * 1024
  timeout : Nat := 36000 * 1000000000
  maxFrameSize : Limit := none
deriving DecidableEq, Repr

structure Logging where
  appName : String := "perf-protocol"
  level : Level := .info
  showTarget : Bool := false
deriving DecidableEq, Repr

structure Settings where
  protocol : Exchange := {}
  logging : Logging := {}
deriving DecidableEq, Repr

/-- The name by which a negotiation selects the protocol. -/
def protocolId : String := "/perf/0.1.0"

/-- The two sides of a stream. -/
inductive Role
  | initiator
  | responder
deriving DecidableEq, Repr

def Role.name : Role → String
  | .initiator => "initiator"
  | .responder => "responder"

/-- Nanoseconds in a millisecond. -/
def millisecond : Nat := 1000000

/-- What can be wrong with settings. -/
inductive Problem
  | uploadTooLarge (size capacity : Nat)
  | downloadTooLarge (size capacity : Nat)
  | noTimeout
  | noFrames
  | noName
deriving DecidableEq, Repr

namespace Problem

def tooLarge (direction : String) (size capacity : Nat) : String :=
  direction ++ " size " ++ toString size ++ " does not fit in a frame (limit: "
    ++ toString capacity ++ " bytes including prefix)"

def message : Problem → String
  | uploadTooLarge size capacity => tooLarge "Upload" size capacity
  | downloadTooLarge size capacity => tooLarge "Download" size capacity
  | noTimeout => "Request timeout must be greater than 0"
  | noFrames => "Max frame size cannot be 0"
  | noName => "Application name cannot be empty"

end Problem

namespace Exchange

def requestLength (e : Exchange) : Nat := Payload.totalLength e.uploadSize

def replyLength (e : Exchange) : Nat := Payload.totalLength e.downloadSize

/-- Does a payload with this much filler exceed a frame? Its length is taken only of filler
that a frame can hold. -/
def exceedsBy {m : Type → Type} [Monad m] (length : Nat → m Nat) (capacity filler : Nat) :
    m Bool := do
  if Frame.largest - CorrelationId.width < filler then return true
  else return capacity < (← length filler)

/-- What is wrong with an exchange, where the lengths of payloads are taken by `length`. -/
def problemsBy {m : Type → Type} [Monad m] (length : Nat → m Nat) (e : Exchange) :
    m (List Problem) := do
  let capacity := Frame.capacity e.maxFrameSize
  let upload ← exceedsBy length capacity e.uploadSize
  let download ← exceedsBy length capacity e.downloadSize
  return (if upload then [.uploadTooLarge e.uploadSize capacity] else [])
    ++ (if download then [.downloadTooLarge e.downloadSize capacity] else [])
    ++ (if e.timeout = 0 then [.noTimeout] else [])
    ++ (if e.maxFrameSize = some 0 then [.noFrames] else [])

/-- What is wrong with an exchange. -/
def problems (e : Exchange) : List Problem :=
  Id.run (e.problemsBy fun filler => pure (Payload.totalLength filler))

/-- Sizes that a frame cannot hold are found out before a length is taken. -/
theorem exceedsBy_eq {m : Type → Type} [Monad m] [LawfulMonad m] {length : Nat → m Nat}
    (exact : ∀ filler ≤ Frame.largest, length filler = pure (Payload.totalLength filler))
    {capacity : Nat} (small : capacity ≤ Frame.largest) (filler : Nat) :
    exceedsBy length capacity filler = pure (decide (capacity < Payload.totalLength filler)) := by
  rw [exceedsBy]
  split
  case isTrue large =>
    have above : capacity < Payload.totalLength filler := by
      simp only [Payload.totalLength] at *
      omega
    rw [decide_eq_true above]
  case isFalse fits => rw [exact filler (by omega), pure_bind]

/-- Lengths that are right for all filler that a frame can hold show what is wrong. -/
theorem problemsBy_eq {m : Type → Type} [Monad m] [LawfulMonad m] {length : Nat → m Nat}
    (exact : ∀ filler ≤ Frame.largest, length filler = pure (Payload.totalLength filler))
    (e : Exchange) :
    e.problemsBy length =
      let capacity := Frame.capacity e.maxFrameSize
      pure ((if capacity < e.requestLength then [.uploadTooLarge e.uploadSize capacity] else [])
        ++ (if capacity < e.replyLength then [.downloadTooLarge e.downloadSize capacity] else [])
        ++ (if e.timeout = 0 then [.noTimeout] else [])
        ++ (if e.maxFrameSize = some 0 then [.noFrames] else [])) := by
  have small := Nat.le_sub_one_of_lt (Frame.capacity_lt e.maxFrameSize)
  simp only [problemsBy, exceedsBy_eq exact small, pure_bind, requestLength, replyLength]
  congr 5 <;> exact decide_eq_true_eq

theorem problems_eq (e : Exchange) :
    e.problems =
      let capacity := Frame.capacity e.maxFrameSize
      (if capacity < e.requestLength then [.uploadTooLarge e.uploadSize capacity] else [])
        ++ (if capacity < e.replyLength then [.downloadTooLarge e.downloadSize capacity] else [])
        ++ (if e.timeout = 0 then [.noTimeout] else [])
        ++ (if e.maxFrameSize = some 0 then [.noFrames] else []) :=
  congrArg Id.run (problemsBy_eq (fun _ _ => rfl) e)

/-- An exchange can be bound to streams only without problems. -/
def accept (e : Exchange) : Except Fault Exchange :=
  match e.problems with
  | [] => .ok e
  | problems =>
      .error (.config
        ("Invalid perf configuration: " ++ "; ".intercalate (problems.map Problem.message)))

/-- The frames of an exchange that is accepted fit. -/
theorem fits_of_accept {e accepted : Exchange} (accepts : e.accept = .ok accepted) :
    e.requestLength ≤ Frame.capacity e.maxFrameSize ∧
      e.replyLength ≤ Frame.capacity e.maxFrameSize := by
  have none : e.problems = [] := by
    unfold accept at accepts
    split at accepts
    · assumption
    · cases accepts
  simp only [problems_eq, List.append_eq_nil_iff, ite_eq_right_iff, reduceCtorEq, imp_false] at none
  exact ⟨Nat.le_of_not_lt none.1.1.1, Nat.le_of_not_lt none.1.1.2⟩

end Exchange

namespace Logging

def problems (l : Logging) : List Problem :=
  if Text.trim l.appName.toList = [] then [.noName] else []

end Logging

namespace Settings

def problems (s : Settings) : List Problem :=
  s.protocol.problems ++ s.logging.problems

/-- The problems as one fault. -/
def check (s : Settings) : Except Fault Unit :=
  match s.problems with
  | [] => .ok ()
  | problems =>
      .error (.config ("Configuration validation failed:\n  - "
        ++ "\n  - ".intercalate (problems.map Problem.message)))

/-- The timeout as it is written: whole milliseconds, of which 64 bits are kept. -/
def timeoutMillis (s : Settings) : Nat := s.protocol.timeout / millisecond % UInt64.size

end Settings

end RoundTrip
