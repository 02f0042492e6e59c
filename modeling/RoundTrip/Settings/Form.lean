import RoundTrip.Document
import RoundTrip.Settings.Basic

/-!
# Settings as documents

Two records, `protocol` and `logging`, make up the settings; a record that is
left out has its defaults. The timeout is held in milliseconds, and a level by
its name.
-/

namespace RoundTrip

namespace Exchange

/-- The fields read so far. -/
structure Draft where
  uploadSize : Option Nat := none
  downloadSize : Option Nat := none
  timeout : Option Nat := none
  maxFrameSize : Limit := none

def readLimit : Document → Except Mismatch Limit
  | .null => .ok none
  | value => (value.natural UInt64.size "usize").map some

def record : Record Draft where
  title := "ProtocolConfig"
  blank := {}
  fields := [
    ⟨"upload_size", true, fun value draft =>
      (value.natural UInt64.size "usize").map fun n => { draft with uploadSize := some n }⟩,
    ⟨"download_size", true, fun value draft =>
      (value.natural UInt64.size "usize").map fun n => { draft with downloadSize := some n }⟩,
    ⟨"timeout", true, fun value draft =>
      (value.natural UInt64.size "u64").map fun n => { draft with timeout := some n }⟩,
    ⟨"max_frame_size", false, fun value draft =>
      (readLimit value).map fun limit => { draft with maxFrameSize := limit }⟩]

def ofDraft (draft : Draft) : Except Mismatch Exchange := do
  let uploadSize ← Record.need "upload_size" draft.uploadSize
  let downloadSize ← Record.need "download_size" draft.downloadSize
  let millis ← Record.need "timeout" draft.timeout
  return ⟨uploadSize, downloadSize, millis * millisecond, draft.maxFrameSize⟩

def ofDocument (form : Form) (document : Document) : Except Mismatch Exchange := do
  ofDraft (← record.read form document)

end Exchange

namespace Logging

/-- The fields read so far. -/
structure Draft where
  appName : Option String := none
  level : Option Level := none
  showTarget : Option Bool := none

def readLevel (value : Document) : Except Mismatch Level := do
  let text ← value.string
  match Level.ofText? text with
  | some level => return level
  | none => throw (.level text)

def record : Record Draft where
  title := "LoggingConfig"
  blank := {}
  fields := [
    ⟨"app_name", true, fun value draft =>
      value.string.map fun s => { draft with appName := some s }⟩,
    ⟨"log_level", true, fun value draft =>
      (readLevel value).map fun level => { draft with level := some level }⟩,
    ⟨"show_target", true, fun value draft =>
      value.flag.map fun b => { draft with showTarget := some b }⟩]

def ofDraft (draft : Draft) : Except Mismatch Logging := do
  let appName ← Record.need "app_name" draft.appName
  let level ← Record.need "log_level" draft.level
  let showTarget ← Record.need "show_target" draft.showTarget
  return ⟨appName, level, showTarget⟩

def ofDocument (form : Form) (document : Document) : Except Mismatch Logging := do
  ofDraft (← record.read form document)

end Logging

namespace Settings

def record (form : Form) : Record Settings where
  title := "PerfConfig"
  blank := {}
  fields := [
    ⟨"protocol", false, fun value draft =>
      (Exchange.ofDocument form value).map fun e => { draft with protocol := e }⟩,
    ⟨"logging", false, fun value draft =>
      (Logging.ofDocument form value).map fun l => { draft with logging := l }⟩]

def ofDocument (form : Form) (document : Document) : Except Mismatch Settings :=
  (record form).read form document

/-- The records with their fields, in the order in which they are written. A limit
that is not set is left out. -/
def sections (s : Settings) : List (String × List (String × Document)) :=
  let limit := (s.protocol.maxFrameSize.map fun m => ("max_frame_size", .int m)).toList
  [("protocol", [
      ("upload_size", .int s.protocol.uploadSize),
      ("download_size", .int s.protocol.downloadSize),
      ("timeout", .int s.timeoutMillis)] ++ limit),
    ("logging", [
      ("app_name", .text s.logging.appName),
      ("log_level", .text s.logging.level.name),
      ("show_target", .bool s.logging.showTarget)])]

def toDocument (s : Settings) : Document :=
  .table (s.sections.map fun (name, members) => (name, .table members))

end Settings

end RoundTrip
