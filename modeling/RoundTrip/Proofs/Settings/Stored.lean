import Mathlib.Algebra.Ring.Nat
import RoundTrip.Proofs.Settings.Fitting
import RoundTrip.Proofs.Settings.Form
import RoundTrip.Proofs.Toml.Sections
import RoundTrip.Settings.Stored

/-!
# Stored settings are read back

Settings have a text just if TOML can hold their numbers (`toToml_iff`). All fields are read
back from it as they were, but for the timeout, of which whole milliseconds are kept, as many
as 64 bits hold.

Main result: settings that are saved are loaded again, and saving those gives the same file
(`saved_settings_reload`).
-/

namespace RoundTrip.Settings

/-- The numbers of the settings are ones that TOML can hold. -/
structure Writable (s : Settings) : Prop where
  uploadSize : s.protocol.uploadSize ≤ 2 ^ 63 - 1
  downloadSize : s.protocol.downloadSize ≤ 2 ^ 63 - 1
  maxFrameSize : ∀ limit ∈ s.protocol.maxFrameSize, limit ≤ 2 ^ 63 - 1
  timeout : s.timeoutMillis ≤ 2 ^ 63 - 1

variable {s : Settings}

/-! ## The text -/

theorem isSome_writeValue (n : Nat) : (Toml.writeValue (.int n)).isSome ↔ n ≤ 2 ^ 63 - 1 := by
  rw [Toml.writeValue, Option.isSome_ite]
  show decide (n < Toml.Number.bound) = true ↔ _
  rw [decide_eq_true_iff, Toml.Number.bound]
  omega

theorem isSome_writeSections (s : Settings) :
    (Toml.writeSections s.sections).isSome ↔ s.Writable := by
  rw [Toml.writeSections_isSome]
  simp only [sections, List.cons_append, List.nil_append, List.forall_mem_cons,
    isSome_writeValue, List.not_mem_nil, false_imp_iff, implies_true, and_true]
  constructor
  · rintro ⟨⟨uploadSize, downloadSize, timeout, limits⟩, -⟩
    refine ⟨uploadSize, downloadSize, fun limit isSet => ?_, timeout⟩
    exact (isSome_writeValue limit).mp (limits ("max_frame_size", .int limit) (by simp_all))
  · rintro ⟨uploadSize, downloadSize, maxFrameSize, timeout⟩
    refine ⟨⟨uploadSize, downloadSize, timeout, fun member isSet => ?_⟩, rfl, rfl, rfl⟩
    obtain ⟨limit, limits, rfl⟩ := Option.map_eq_some_iff.mp (Option.mem_toList.mp isSet)
    exact (isSome_writeValue limit).mpr (maxFrameSize limit limits)

theorem toToml_iff (s : Settings) : (∃ text, s.toToml = .ok text) ↔ s.Writable := by
  rw [← isSome_writeSections, toToml]
  cases Toml.writeSections s.sections with
  | none => exact ⟨nofun, nofun⟩
  | some text => exact ⟨fun _ => rfl, fun _ => ⟨_, rfl⟩⟩

theorem toToml_cases (s : Settings) :
    (∃ text, s.toToml = .ok text) ∨ ∃ reason, s.toToml = .error (.config reason) := by
  rw [toToml]
  cases Toml.writeSections s.sections with
  | none => exact .inr ⟨_, rfl⟩
  | some text => exact .inl ⟨_, rfl⟩

theorem writes_of_toToml {text : String} (writes : s.toToml = .ok text) :
    Toml.writeSections s.sections = some text.toList := by
  rw [toToml] at writes
  split at writes
  case h_1 written =>
    cases writes
    rw [written, String.toList_ofList]
  case h_2 => cases writes

theorem named_sections (s : Settings) : Toml.Named s.sections :=
  .of_names ["protocol", "logging"] rfl (by decide +kernel) (by decide +kernel)

theorem named_members (s : Settings) : ∀ t ∈ s.sections, Toml.Named t.2 := by
  simp only [sections, List.forall_mem_cons, List.not_mem_nil, false_imp_iff, implies_true,
    and_true]
  constructor
  · cases s.protocol.maxFrameSize with
    | none =>
        exact .of_names ["upload_size", "download_size", "timeout"] rfl (by decide +kernel)
          (by decide +kernel)
    | some limit =>
        exact .of_names ["upload_size", "download_size", "timeout", "max_frame_size"] rfl
          (by decide +kernel) (by decide +kernel)
  · exact .of_names ["app_name", "log_level", "show_target"] rfl (by decide +kernel)
      (by decide +kernel)

theorem ofDocument_toDocument (writable : s.Writable) :
    ofDocument .toml s.toDocument = .ok s.inMillis := by
  have fits {n : Nat} (small : n ≤ 2 ^ 63 - 1) : n < UInt64.size :=
    Nat.lt_of_le_of_lt small (by decide)
  exact ofDocument_of_written .toml (fits writable.uploadSize) (fits writable.downloadSize)
    (fun limit isSet => fits (writable.maxFrameSize limit isSet)) (written_toDocument s)

/-! ## The file -/

theorem ofToml_of_toToml {text : String} (writes : s.toToml = .ok text) :
    ofToml text = .ok s.inMillis := by
  have document := Toml.read_writeSections (named_sections s) (named_members s)
    (writes_of_toToml writes)
  rw [ofToml, document]
  have fields := ofDocument_toDocument ((toToml_iff s).mp ⟨text, writes⟩)
  rw [toDocument] at fields
  simp only [fields]

theorem toToml_inMillis (s : Settings) : s.inMillis.toToml = s.toToml := by
  rw [toToml, sections_inMillis, toToml]

theorem save_of_toToml {text : String} (writes : s.toToml = .ok text) (place : Place) :
    s.save place = place.put text.toUTF8.data.toList := by
  rw [save, writes]
  rfl

theorem load_file (text : String) : load (.file text.toUTF8.data.toList) = ofToml text := by
  have decoded : String.fromUTF8? ⟨text.toUTF8.data.toList.toArray⟩ = some text :=
    dif_pos text.isValidUTF8
  simp only [load, Place.bytes, bind, Except.bind, decoded]

/-- Saving settings and loading them keeps all but parts of a millisecond. The text exists just
if TOML can hold the numbers; otherwise no place is touched. What is read from the text has the
same text. -/
theorem saved_settings_reload (s : Settings) :
    ((∃ text, s.toToml = .ok text) ↔
      s.protocol.uploadSize ≤ 2 ^ 63 - 1 ∧ s.protocol.downloadSize ≤ 2 ^ 63 - 1 ∧
      (∀ limit, s.protocol.maxFrameSize = some limit → limit ≤ 2 ^ 63 - 1) ∧
      s.protocol.timeout / 1000000 % 2 ^ 64 ≤ 2 ^ 63 - 1) ∧
    ((∀ text, s.toToml ≠ .ok text) →
      ∀ place, ∃ reason, s.save place = .error (.config reason)) ∧
    ∀ text, s.toToml = .ok text →
      ∃ reloaded : Settings, ofToml text = .ok reloaded ∧
        reloaded = { s with protocol := { s.protocol with
          timeout := s.protocol.timeout / 1000000 % 2 ^ 64 * 1000000 } } ∧
        reloaded.toToml = .ok text ∧
        ∀ content, ∀ place ∈ [.file content, .absent],
          ∃ stored, s.save place = .ok stored ∧ load stored = .ok reloaded ∧
            reloaded.save stored = .ok stored := by
  refine ⟨?_, ?_, ?_⟩
  · rw [toToml_iff]
    exact ⟨fun ⟨upload, download, limit, timeout⟩ => ⟨upload, download, limit, timeout⟩,
      fun ⟨upload, download, limit, timeout⟩ => ⟨upload, download, limit, timeout⟩⟩
  · intro unwritten place
    obtain ⟨text, writes⟩ | ⟨reason, refused⟩ := toToml_cases s
    · exact absurd writes (unwritten text)
    · refine ⟨reason, ?_⟩
      rw [save, refused]
      rfl
  · intro text writes
    have reads := ofToml_of_toToml writes
    have again : s.inMillis.toToml = .ok text := (toToml_inMillis s).trans writes
    refine ⟨s.inMillis, reads, rfl, again, fun content place isPlace => ?_⟩
    refine ⟨.file text.toUTF8.data.toList, ?_, (load_file text).trans reads,
      save_of_toToml again _⟩
    rw [save_of_toToml writes]
    simp only [List.mem_cons, List.not_mem_nil, or_false] at isPlace
    rcases isPlace with rfl | rfl <;> rfl

/-! ## Problems -/

theorem toToml_of_save {place stored : Place} (saves : s.save place = .ok stored) :
    ∃ text, s.toToml = .ok text ∧ stored = .file text.toUTF8.data.toList := by
  obtain ⟨text, writes⟩ | ⟨reason, refused⟩ := toToml_cases s
  · rw [save_of_toToml writes] at saves
    refine ⟨text, writes, ?_⟩
    cases place <;> cases saves <;> rfl
  · rw [save, refused] at saves
    cases saves

/-- A file that was saved is loaded with the timeout that is written. -/
theorem load_of_save {place stored : Place} (saves : s.save place = .ok stored) :
    load stored = .ok s.inMillis := by
  obtain ⟨text, writes, rfl⟩ := toToml_of_save saves
  rw [load_file, ofToml_of_toToml writes]

/-- Where nothing is wrong, another timeout can be wrong only by itself. -/
theorem problems_of_timeout {e : Exchange} (valid : e.problems = []) (timeout : Nat) :
    { e with timeout : Exchange }.problems = if timeout = 0 then [.noTimeout] else [] := by
  rw [Exchange.problems_eq] at valid ⊢
  simp only [List.append_eq_nil_iff, ite_eq_right_iff, reduceCtorEq, imp_false] at valid
  obtain ⟨⟨⟨upload, download⟩, -⟩, limit⟩ := valid
  have replaced : { e with timeout : Exchange }.requestLength = e.requestLength ∧
      { e with timeout : Exchange }.replyLength = e.replyLength := ⟨rfl, rfl⟩
  simp [replaced, upload, download, limit]

theorem problems_inMillis (valid : s.problems = []) :
    s.inMillis.problems = if s.timeoutMillis = 0 then [.noTimeout] else [] := by
  obtain ⟨protocol, logging⟩ := List.append_eq_nil_iff.mp valid
  show { s.protocol with timeout := s.timeoutMillis * millisecond : Exchange }.problems ++
    s.logging.problems = _
  have zero : s.timeoutMillis * millisecond = 0 ↔ s.timeoutMillis = 0 := by
    rw [millisecond]
    omega
  rw [problems_of_timeout protocol, logging, List.append_nil]
  simp only [zero]

theorem save_of_writable (writable : s.Writable) : ∃ stored, s.save .absent = .ok stored := by
  obtain ⟨text, writes⟩ := (toToml_iff s).mpr writable
  exact ⟨_, save_of_toToml writes .absent⟩

/-- What is loaded from a file that settings without problems were saved in has no problems
either, if whole milliseconds are left of the timeout. A shorter timeout is lost, and nothing
else is wrong then. -/
theorem saved_settings_stay_valid {s : Settings} {place stored : Place} (valid : s.problems = [])
    (saves : s.save place = .ok stored) :
    ∃ reloaded, load stored = .ok reloaded ∧
      (s.protocol.timeout / 1000000 % 2 ^ 64 ≠ 0 →
        reloaded.problems = [] ∧ reloaded.protocol.accept = .ok reloaded.protocol) ∧
      (s.protocol.timeout < 1000000 → reloaded.problems = [.noTimeout]) := by
  refine ⟨s.inMillis, load_of_save saves, ?_, ?_⟩
  · intro left
    have valid : s.inMillis.problems = [] := (problems_inMillis valid).trans (if_neg left)
    exact ⟨valid, Exchange.accept_eq_ok_iff.mpr ⟨(List.append_eq_nil_iff.mp valid).1, rfl⟩⟩
  · intro short
    have lost : s.timeoutMillis = 0 := by
      rw [timeoutMillis, millisecond, Nat.div_eq_of_lt short]
      rfl
    exact (problems_inMillis valid).trans (if_pos lost)

/-- Two and a half milliseconds stay two, beside a limit that just fits and a name that is
quoted. -/
theorem saved_settings_stay_valid_fraction :
    let s : Settings :=
      { protocol := { uploadSize := 8, downloadSize := 12, timeout := 2500000,
                      maxFrameSize := some 16 }
        logging := { appName := "a \"b\"\n", level := .trace, showTarget := true } }
    s.problems = [] ∧
    ∃ stored reloaded, s.save .absent = .ok stored ∧ load stored = .ok reloaded ∧
      reloaded.problems = [] ∧ reloaded.protocol.accept = .ok reloaded.protocol := by
  intro s
  have valid : s.problems = [] := by decide
  have writable : s.Writable := ⟨by decide, by decide, by decide, by decide⟩
  obtain ⟨stored, saves⟩ := save_of_writable writable
  obtain ⟨reloaded, loads, stays, -⟩ := saved_settings_stay_valid valid saves
  exact ⟨valid, stored, reloaded, saves, loads, stays (by decide)⟩

/-- Half a millisecond is a timeout that is lost. -/
theorem short_timeout_is_lost :
    ∃ stored reloaded, { protocol := { timeout := 500000 } : Settings }.problems = [] ∧
      { protocol := { timeout := 500000 } : Settings }.save .absent = .ok stored ∧
      load stored = .ok reloaded ∧ reloaded.problems = [.noTimeout] := by
  have valid : { protocol := { timeout := 500000 } : Settings }.problems = [] := by decide
  have writable : { protocol := { timeout := 500000 } : Settings }.Writable :=
    ⟨by decide, by decide, nofun, by decide⟩
  obtain ⟨stored, saves⟩ := save_of_writable writable
  exact ⟨stored, _, valid, saves, load_of_save saves, problems_inMillis valid⟩

end RoundTrip.Settings
