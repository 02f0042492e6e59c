import RoundTrip.Settings.Form
import RoundTrip.Toml.Statement
import RoundTrip.Toml.Writer

/-!
# Stored settings

Settings are stored as TOML: `Settings.toToml` writes them and `Settings.ofToml`
reads them. `Settings.load` and `Settings.save` do so at a place in a file system,
which may be something else than a file.
-/

namespace RoundTrip.Settings

/-- The text of the settings. Sizes and timeouts beyond what TOML can hold have
none. -/
def toToml (s : Settings) : Except Fault String :=
  match Toml.writeSections s.sections with
  | some text => .ok (String.ofList text)
  | none => .error (.config "Failed to serialize config: out-of-range value for u64 type")

def unreadable : String := "Failed to parse TOML"

/-- Read settings from their text. Only what does not fit the settings is put into
words; a text that is no TOML is refused as a whole. -/
def ofToml (text : String) : Except Fault Settings :=
  match Toml.read text.toList with
  | none => .error (.config unreadable)
  | some document =>
      match ofDocument .toml document with
      | .ok settings => .ok settings
      | .error mismatch => .error (.config (unreadable ++ ": " ++ mismatch.message .toml))

/-- What stands at a place in a file system. -/
inductive Place
  | file (content : Bytes)
  | directory
  | absent
  /-- Not even the directory of the place is there. -/
  | astray
deriving DecidableEq, Repr

namespace Place

def notFound : String := "No such file or directory (os error 2)"

def isDirectory : String := "Is a directory (os error 21)"

/-- The bytes at a place. A directory can be opened, but not read. -/
def bytes : Place → Except Fault Bytes
  | .file content => .ok content
  | .directory => .error (.config ("Failed to read config file: " ++ isDirectory))
  | .absent | .astray => .error (.config ("Failed to open config file: " ++ notFound))

/-- Put bytes where a file is or can be. -/
def put (content : Bytes) : Place → Except Fault Place
  | .file _ | .absent => .ok (.file content)
  | .directory => .error (.config ("Failed to write config file: " ++ isDirectory))
  | .astray => .error (.config ("Failed to write config file: " ++ notFound))

end Place

def load (place : Place) : Except Fault Settings := do
  match String.fromUTF8? ⟨(← place.bytes).toArray⟩ with
  | some text => ofToml text
  | none =>
      throw (.config "Failed to read config file: stream did not contain valid UTF-8")

/-- Store the settings at a place. Nothing is touched if they cannot be written. -/
def save (s : Settings) (place : Place) : Except Fault Place := do
  place.put (← s.toToml).toUTF8.data.toList

end RoundTrip.Settings
