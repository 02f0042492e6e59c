import RoundTrip.Settings.Basic

/-!
# Overrides from the environment

Five variables override settings, one after the other. A malformed value stops
the sequence: what came before it stays, and the rest is not looked at.
-/

namespace RoundTrip

/-- One variable and what it does to the settings. -/
structure Override where
  key : String
  put? : String → Settings → Option Settings
  refusal : String → Fault

namespace Override

/-- A variable that holds a number of 64 bits, with white space around it
ignored. -/
def number (key : String) (put : Nat → Settings → Settings) : Override where
  key := key
  put? raw settings :=
    (Text.unsigned? UInt64.size (Text.trim raw.toList)).map fun value => put value settings
  refusal raw := .config ("Invalid value for " ++ key ++ ": '" ++ raw ++ "'")

def uploadSize : Override :=
  number "PERF_UPLOAD_BYTES" fun value s =>
    { s with protocol := { s.protocol with uploadSize := value } }

def downloadSize : Override :=
  number "PERF_DOWNLOAD_BYTES" fun value s =>
    { s with protocol := { s.protocol with downloadSize := value } }

def timeout : Override :=
  number "PERF_TIMEOUT_MS" fun value s =>
    { s with protocol := { s.protocol with timeout := value * millisecond } }

def maxFrameSize : Override :=
  number "PERF_MAX_FRAME_SIZE" fun value s =>
    { s with protocol := { s.protocol with maxFrameSize := some value } }

def logLevel : Override where
  key := "PERF_LOG_LEVEL"
  put? raw s := (Level.ofText? raw).map fun level => { s with logging := { s.logging with level } }
  refusal raw := .config ("Invalid PERF_LOG_LEVEL: " ++ raw)

/-- The overrides in the order in which they are applied. -/
def all : List Override := [uploadSize, downloadSize, timeout, maxFrameSize, logLevel]

/-- Apply overrides until one is malformed. -/
def apply (lookup : String → Option String) :
    List Override → Settings → Settings × Except Fault Unit
  | [], s => (s, .ok ())
  | o :: rest, s =>
      match lookup o.key with
      | none => apply lookup rest s
      | some raw =>
          match o.put? raw s with
          | some next => apply lookup rest next
          | none => (s, .error (o.refusal raw))

end Override

namespace Settings

/-- Apply all overrides that the lookup defines. The settings are those reached
when the sequence ended, also where a malformed value ended it. -/
def override (lookup : String → Option String) (s : Settings) : Settings × Except Fault Unit :=
  Override.apply lookup Override.all s

/-- The default settings with all overrides applied. -/
def ofEnvironment (lookup : String → Option String) : Except Fault Settings :=
  match override lookup {} with
  | (settings, .ok ()) => .ok settings
  | (_, .error fault) => .error fault

end Settings

end RoundTrip
