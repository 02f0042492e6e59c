import Mathlib.Algebra.Ring.Nat
import RoundTrip.Proofs.Document
import RoundTrip.Proofs.Document.Record
import RoundTrip.Settings.Form

/-!
# Settings are read from their documents

The document of settings is one of many that hold them (`Settings.Written`): each of the three
records may be a table or a list, and each table may have more members. They are all read alike.

Main result: settings are read from the documents that hold them as they were, but for parts of a
millisecond, and what is read has the same document (`documents_read_back`).
-/

namespace RoundTrip

open Record (Holds Fits)

/-! ## Records -/

namespace Exchange

/-- The ways of writing a limit. -/
def limitMembers : Limit → List (List (String × Document))
  | none => [[], [("max_frame_size", .null)]]
  | some limit => [[("max_frame_size", .int limit)]]

/-- The values that an exchange always has, its timeout in milliseconds. -/
def members (upload download millis : Nat) : List (String × Document) :=
  [("upload_size", .int upload), ("download_size", .int download), ("timeout", .int millis)]

/-- A document that holds an exchange. -/
def Written (upload download millis : Nat) (limit : Limit) (d : Document) : Prop :=
  ∃ own ∈ limitMembers limit,
    Holds ["upload_size", "download_size", "timeout", "max_frame_size"]
      (members upload download millis ++ own) d

variable {upload download millis : Nat} {limit : Limit} {own : List (String × Document)}

/-- What the values make of a draft, one after another. -/
def steps (upload download millis : Nat) (limit : Limit) (own : List (String × Document)) :
    List (Draft → Draft) :=
  [fun draft => { draft with uploadSize := some upload },
    fun draft => { draft with downloadSize := some download },
    fun draft => { draft with timeout := some millis }] ++
  own.map fun _ draft => { draft with maxFrameSize := limit }

theorem mem_limitMembers_none :
    own ∈ limitMembers none ↔ own = [] ∨ own = [("max_frame_size", .null)] := by
  simp [limitMembers]

theorem mem_limitMembers_some {m : Nat} :
    own ∈ limitMembers (some m) ↔ own = [("max_frame_size", .int m)] :=
  List.mem_singleton

theorem fits_limit (maxFrameSize : ∀ m ∈ limit, m < UInt64.size)
    (isOwn : own ∈ limitMembers limit) :
    Fits (record.fields.drop 3) own
      (own.map fun _ draft => { draft with maxFrameSize := limit }) := by
  cases limit with
  | none =>
      rcases mem_limitMembers_none.mp isOwn with rfl | rfl
      · exact .rest (by decide)
      · have reads : readLimit .null = .ok none := rfl
        exact .field (.of_map reads _ _) (.rest nofun)
  | some m =>
      obtain rfl := mem_limitMembers_some.mp isOwn
      have reads : readLimit (.int m) = .ok (some m) := by
        simp only [readLimit, Document.natural_ofNat (maxFrameSize m rfl)]
        rfl
      exact .field (.of_map reads _ _) (.rest nofun)

theorem fits_steps (uploadSize : upload < UInt64.size)
    (downloadSize : download < UInt64.size) (timeout : millis < UInt64.size)
    (maxFrameSize : ∀ m ∈ limit, m < UInt64.size) (isOwn : own ∈ limitMembers limit) :
    Fits record.fields (members upload download millis ++ own)
      (steps upload download millis limit own) :=
  .field (.of_map (Document.natural_ofNat uploadSize _) _ _)
    (.field (.of_map (Document.natural_ofNat downloadSize _) _ _)
      (.field (.of_map (Document.natural_ofNat timeout _) _ _) (fits_limit maxFrameSize isOwn)))

theorem commute_steps : (steps upload download millis limit own).Pairwise Record.Commute := by
  simp [steps, Record.Commute]

theorem build_steps (isOwn : own ∈ limitMembers limit) :
    Record.build (steps upload download millis limit own) {} =
      ⟨some upload, some download, some millis, limit⟩ := by
  cases limit with
  | none => rcases mem_limitMembers_none.mp isOwn with rfl | rfl <;> rfl
  | some m =>
      obtain rfl := mem_limitMembers_some.mp isOwn
      rfl

theorem ofDocument_of_written {d : Document} (form : Form) (uploadSize : upload < UInt64.size)
    (downloadSize : download < UInt64.size) (timeout : millis < UInt64.size)
    (maxFrameSize : ∀ m ∈ limit, m < UInt64.size)
    (written : Written upload download millis limit d) :
    ofDocument form d = .ok ⟨upload, download, millis * millisecond, limit⟩ := by
  obtain ⟨own, isOwn, holds⟩ := written
  have fits := fits_steps uploadSize downloadSize timeout maxFrameSize isOwn
  rw [ofDocument, Record.read_of_holds fits (by decide) commute_steps holds form]
  exact congrArg ofDraft (build_steps isOwn)

end Exchange

theorem Level.ofText?_name (level : Level) : ofText? level.name = some level := by
  cases level <;> decide

namespace Logging

theorem readLevel_name (level : Level) : readLevel (.text level.name) = .ok level := by
  simp only [readLevel, Document.string, bind, Except.bind, Level.ofText?_name]
  rfl

def members (l : Logging) : List (String × Document) :=
  [("app_name", .text l.appName), ("log_level", .text l.level.name),
    ("show_target", .bool l.showTarget)]

/-- A document that holds what is set for the log. -/
def Written (l : Logging) (d : Document) : Prop :=
  Holds ["app_name", "log_level", "show_target"] l.members d

/-- What the values make of a draft, one after another. -/
def steps (l : Logging) : List (Draft → Draft) :=
  [fun draft => { draft with appName := some l.appName },
    fun draft => { draft with level := some l.level },
    fun draft => { draft with showTarget := some l.showTarget }]

theorem fits_steps (l : Logging) : Fits record.fields l.members l.steps :=
  .field (.of_map (Document.string_text l.appName) _ _)
    (.field (.of_map (readLevel_name l.level) _ _)
      (.field (.of_map (Document.flag_bool l.showTarget) _ _) (.rest nofun)))

theorem ofDocument_of_written {l : Logging} {d : Document} (form : Form)
    (written : l.Written d) : ofDocument form d = .ok l := by
  have commute : l.steps.Pairwise Record.Commute := by simp [steps, Record.Commute]
  rw [ofDocument, Record.read_of_holds l.fits_steps (by decide) commute written form]
  rfl

end Logging

namespace Settings

variable {s : Settings} {d : Document}

/-- The settings with the timeout that is written. -/
def inMillis (s : Settings) : Settings :=
  { s with protocol := { s.protocol with timeout := s.timeoutMillis * millisecond } }

/-- A document that holds the settings. -/
def Written (s : Settings) (d : Document) : Prop :=
  ∃ protocol logging,
    Exchange.Written s.protocol.uploadSize s.protocol.downloadSize s.timeoutMillis
      s.protocol.maxFrameSize protocol ∧
    s.logging.Written logging ∧
    Holds ["protocol", "logging"] [("protocol", protocol), ("logging", logging)] d

/-- The settings are read from the documents of their records. -/
theorem ofDocument_of_holds {form : Form} {protocol logging : Document} {e : Exchange}
    {l : Logging} (exchange : Exchange.ofDocument form protocol = .ok e)
    (log : Logging.ofDocument form logging = .ok l)
    (holds : Holds ["protocol", "logging"] [("protocol", protocol), ("logging", logging)] d) :
    ofDocument form d = .ok ⟨e, l⟩ := by
  have fits : Fits (record form).fields [("protocol", protocol), ("logging", logging)]
      [fun draft => { draft with protocol := e }, fun draft => { draft with logging := l }] :=
    .field (.of_map exchange _ _) (.field (.of_map log _ _) (.rest nofun))
  exact Record.read_of_holds fits (by simp [Record.names, record]) (by simp [Record.Commute])
    holds form

theorem ofDocument_of_written (form : Form) (uploadSize : s.protocol.uploadSize < UInt64.size)
    (downloadSize : s.protocol.downloadSize < UInt64.size)
    (maxFrameSize : ∀ limit ∈ s.protocol.maxFrameSize, limit < UInt64.size)
    (written : s.Written d) : ofDocument form d = .ok s.inMillis := by
  obtain ⟨protocol, logging, exchange, log, holds⟩ := written
  have timeout : s.timeoutMillis < UInt64.size := Nat.mod_lt _ (by decide)
  exact ofDocument_of_holds
    (Exchange.ofDocument_of_written form uploadSize downloadSize timeout maxFrameSize exchange)
    (Logging.ofDocument_of_written form log) holds

/-! ## Their own document -/

theorem sections_inMillis (s : Settings) : s.inMillis.sections = s.sections := by
  -- The written timeout is one that is written unchanged.
  have same : s.inMillis.timeoutMillis = s.timeoutMillis := by
    show s.timeoutMillis * millisecond / millisecond % UInt64.size = s.timeoutMillis
    rw [Nat.mul_div_cancel _ (by decide)]
    exact Nat.mod_mod _ _
  simp only [sections, same]
  rfl

theorem toDocument_inMillis (s : Settings) : s.inMillis.toDocument = s.toDocument := by
  rw [toDocument, sections_inMillis, toDocument]

theorem written_toDocument (s : Settings) : s.Written s.toDocument := by
  have limit :
      (s.protocol.maxFrameSize.map fun m : Nat => ("max_frame_size", Document.int m)).toList ∈
        Exchange.limitMembers s.protocol.maxFrameSize := by
    cases s.protocol.maxFrameSize <;> exact List.mem_cons_self
  refine ⟨_, _, ⟨_, limit, .of_names ?_⟩, .of_names ?_, .of_names ?_⟩
  · cases s.protocol.maxFrameSize <;> simp [Exchange.members]
  · simp [Logging.members]
  · simp

/-- The document of settings, and every other one that holds them, is read as these settings with
the milliseconds of their timeout that 64 bits hold. What is read has the same document. -/
theorem documents_read_back (s : Settings) (uploadSize : s.protocol.uploadSize < 2 ^ 64)
    (downloadSize : s.protocol.downloadSize < 2 ^ 64)
    (maxFrameSize : ∀ limit, s.protocol.maxFrameSize = some limit → limit < 2 ^ 64) :
    ∃ reloaded : Settings,
      reloaded = { s with protocol := { s.protocol with
        timeout := s.protocol.timeout / 1000000 % 2 ^ 64 * 1000000 } } ∧
      ofDocument .json s.toDocument = .ok reloaded ∧ reloaded.toDocument = s.toDocument ∧
      ∀ d, s.Written d → ofDocument .json d = .ok reloaded := by
  have read : ∀ d, s.Written d → ofDocument .json d = .ok s.inMillis :=
    fun _ => ofDocument_of_written .json uploadSize downloadSize maxFrameSize
  exact ⟨s.inMillis, rfl, read _ (written_toDocument s), toDocument_inMillis s, read⟩

/-- Sizes that 64 bits just hold, a timeout that they do not, a table with one more member in it,
and lists around it. -/
theorem documents_read_back_largest :
    ofDocument .json (.list [
      .table [("max_frame_size", .int 18446744073709551615), ("timeout", .int 5),
        ("retries", .int 3), ("download_size", .int 18446744073709551615),
        ("upload_size", .int 18446744073709551615)],
      .list [.text "", .text "warn", .bool true]]) =
    .ok ⟨⟨2 ^ 64 - 1, 2 ^ 64 - 1, 5000000, some (2 ^ 64 - 1)⟩, ⟨"", .warn, true⟩⟩ := by
  obtain ⟨_, rfl, -, -, read⟩ := documents_read_back
    ⟨⟨2 ^ 64 - 1, 2 ^ 64 - 1, (2 ^ 64 + 5) * 1000000 + 7, some (2 ^ 64 - 1)⟩, ⟨"", .warn, true⟩⟩
    (by decide) (by decide) (by simp)
  refine read _ ⟨_, _, ⟨_, List.mem_cons_self, .table ?_⟩, .list, .list⟩
  refine (List.Perm.of_eq ?_).trans (List.reverse_perm _)
  rfl

end Settings

end RoundTrip
