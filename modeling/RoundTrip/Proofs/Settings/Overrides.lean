import RoundTrip.Settings.Overrides
import Mathlib.Data.List.TakeWhile

/-!
# Overrides in order

The variables are looked at one after the other, up to the first one that is malformed
(`Override.apply_eq`). Whether a value can be read does not depend on the settings that it
overrides, so all that matters of a lookup is what it holds up to there (`override_eq`).

Main result: overriding is a fold that can be resumed (`overrides_resume`). Doing it again changes
nothing, and after a failure it can be done again, as if it had not failed.
-/

namespace RoundTrip

variable {lookup : String → Option String}

namespace Override

/-- The number that a value holds. -/
def number? (raw : String) : Option Nat := Text.unsigned? UInt64.size (Text.trim raw.toList)

/-- The variables, in the order in which they are looked at. -/
def keys : List String :=
  ["PERF_UPLOAD_BYTES", "PERF_DOWNLOAD_BYTES", "PERF_TIMEOUT_MS", "PERF_MAX_FRAME_SIZE",
    "PERF_LOG_LEVEL"]

/-- A variable holds a value that cannot be read. -/
def malformed (lookup : String → Option String) (key : String) : Bool :=
  (lookup key).any fun raw =>
    if key = "PERF_LOG_LEVEL" then (Level.ofText? raw).isNone else (number? raw).isNone

/-- What the variables hold before the first one that is malformed. -/
def reached (lookup : String → Option String) (key : String) : Option String :=
  if key ∈ keys.takeWhile (!malformed lookup ·) then lookup key else none

/-- The settings with the value of one variable, if it has one that can be read. -/
def put (lookup : String → Option String) (s : Settings) (o : Override) : Settings :=
  ((lookup o.key).bind (o.put? · s)).getD s

end Override

/-- The settings with all values that can be read. -/
def Settings.holding (lookup : String → Option String) (s : Settings) : Settings where
  protocol :=
    { uploadSize :=
        ((lookup "PERF_UPLOAD_BYTES").bind Override.number?).getD s.protocol.uploadSize
      downloadSize :=
        ((lookup "PERF_DOWNLOAD_BYTES").bind Override.number?).getD s.protocol.downloadSize
      timeout :=
        (((lookup "PERF_TIMEOUT_MS").bind Override.number?).map (· * millisecond)).getD
          s.protocol.timeout
      maxFrameSize :=
        (((lookup "PERF_MAX_FRAME_SIZE").bind Override.number?).map some).getD
          s.protocol.maxFrameSize }
  logging :=
    { s.logging with
      level := ((lookup "PERF_LOG_LEVEL").bind Level.ofText?).getD s.logging.level }

namespace Override

theorem keys_eq : keys = all.map (·.key) := rfl

/-! ## One override -/

/-- Whether a value can be read depends on the value alone. -/
theorem isNone_put? {o : Override} (known : o ∈ all) (raw : String) (s : Settings) :
    (o.put? raw s).isNone =
      if o.key = "PERF_LOG_LEVEL" then (Level.ofText? raw).isNone else (number? raw).isNone := by
  simp only [all, List.mem_cons, List.not_mem_nil, or_false] at known
  obtain rfl | rfl | rfl | rfl | rfl := known
  · simp [uploadSize, number, number?]
  · simp [downloadSize, number, number?]
  · simp [timeout, number, number?]
  · simp [maxFrameSize, number, number?]
  · simp [logLevel]

theorem put_of_none {o : Override} (absent : lookup o.key = none) (s : Settings) :
    put lookup s o = s := by
  simp [put, absent]

/-- A fault names the variable and quotes its value. -/
theorem refusal_eq {o : Override} (known : o ∈ all) (raw : String) :
    o.refusal raw = .config
      (if o.key = "PERF_LOG_LEVEL" then "Invalid PERF_LOG_LEVEL: " ++ raw
        else "Invalid value for " ++ o.key ++ ": '" ++ raw ++ "'") := by
  simp only [all, List.mem_cons, List.not_mem_nil, or_false] at known
  obtain rfl | rfl | rfl | rfl | rfl := known <;> rfl

/-! ## A row of overrides -/

/-- Overrides are put one after the other, up to the first one that is malformed. -/
theorem apply_eq {overrides : List Override} (known : ∀ o ∈ overrides, o ∈ all) (s : Settings) :
    apply lookup overrides s =
      ((overrides.takeWhile (!malformed lookup ·.key)).foldl (put lookup) s,
        match overrides.find? (malformed lookup ·.key) with
        | none => .ok ()
        | some o => .error (o.refusal ((lookup o.key).getD ""))) := by
  induction overrides generalizing s with
  | nil => rfl
  | cons o rest ih =>
      have others (s : Settings) := ih (fun o member => known o (List.mem_cons_of_mem _ member)) s
      rw [apply]
      cases held : lookup o.key with
      | none => simp [others, malformed, held, put]
      | some raw =>
          have readable := isNone_put? (known o List.mem_cons_self) raw s
          cases read : o.put? raw s with
          | some next =>
              have fine : malformed lookup o.key = false := by
                rw [malformed, held, Option.any_some, ← readable, read]
                rfl
              simp [others, fine, put, held, read]
          | none =>
              have bad : malformed lookup o.key = true := by
                rw [malformed, held, Option.any_some, ← readable, read]
                rfl
              simp [bad, held, read]

theorem put_number (key : String) (set : Nat → Settings → Settings) (s : Settings) :
    put lookup s (number key set) = ((lookup key).bind number?).elim s (set · s) := by
  rw [put, number]
  cases held : lookup key with
  | none => rfl
  | some raw => cases read : number? raw <;> simp_all [number?]

theorem put_logLevel (s : Settings) :
    put lookup s logLevel = ((lookup "PERF_LOG_LEVEL").bind Level.ofText?).elim s
      fun level => { s with logging := { s.logging with level } } := by
  rw [put, logLevel]
  cases held : lookup "PERF_LOG_LEVEL" with
  | none => rfl
  | some raw => cases read : Level.ofText? raw <;> simp [read]

/-- Each override puts its own field, and leaves the others. -/
theorem foldl_put_all (lookup : String → Option String) (s : Settings) :
    all.foldl (put lookup) s = s.holding lookup := by
  simp only [all, List.foldl_cons, List.foldl_nil, put_logLevel, uploadSize, downloadSize, timeout,
    maxFrameSize, put_number, Settings.holding]
  cases (lookup "PERF_UPLOAD_BYTES").bind number? <;>
    cases (lookup "PERF_DOWNLOAD_BYTES").bind number? <;>
      cases (lookup "PERF_TIMEOUT_MS").bind number? <;>
        cases (lookup "PERF_MAX_FRAME_SIZE").bind number? <;>
          cases (lookup "PERF_LOG_LEVEL").bind Level.ofText? <;> rfl

theorem foldl_put_congr {first second : String → Option String} {overrides : List Override}
    (same : ∀ o ∈ overrides, first o.key = second o.key) (s : Settings) :
    overrides.foldl (put first) s = overrides.foldl (put second) s := by
  induction overrides generalizing s with
  | nil => rfl
  | cons o rest ih =>
      have head : put first s o = put second s o := by
        rw [put, put, same o List.mem_cons_self]
      rw [List.foldl_cons, List.foldl_cons, head]
      exact ih (fun o member => same o (List.mem_cons_of_mem _ member)) _

theorem foldl_put_of_none {overrides : List Override}
    (absent : ∀ o ∈ overrides, lookup o.key = none) (s : Settings) :
    overrides.foldl (put lookup) s = s := by
  induction overrides with
  | nil => rfl
  | cons o rest ih =>
      rw [List.foldl_cons, put_of_none (absent o List.mem_cons_self)]
      exact ih fun o member => absent o (List.mem_cons_of_mem _ member)

/-- What is behind a malformed variable is not looked at. -/
theorem foldl_put_reached (lookup : String → Option String) (s : Settings) :
    (all.takeWhile (!malformed lookup ·.key)).foldl (put lookup) s =
      all.foldl (put (reached lookup)) s := by
  have named : keys.takeWhile (!malformed lookup ·) =
      (all.takeWhile (!malformed lookup ·.key)).map (·.key) := by
    rw [keys_eq, List.takeWhile_map]
    rfl
  have split := List.takeWhile_append_dropWhile (p := (!malformed lookup ·.key)) (l := all)
  have distinct : (all.map (·.key)).Nodup := by decide
  rw [← split, List.map_append, List.nodup_append] at distinct
  have before : ∀ o ∈ all.takeWhile (!malformed lookup ·.key),
      lookup o.key = reached lookup o.key := by
    intro o member
    rw [reached, named, if_pos (List.mem_map_of_mem member)]
  have behind : ∀ o ∈ all.dropWhile (!malformed lookup ·.key), reached lookup o.key = none := by
    intro o member
    rw [reached, named, if_neg]
    exact fun also => distinct.2.2 _ also _ (List.mem_map_of_mem member) rfl
  calc
    (all.takeWhile (!malformed lookup ·.key)).foldl (put lookup) s =
        (all.takeWhile (!malformed lookup ·.key)).foldl (put (reached lookup)) s :=
      foldl_put_congr before s
    _ = (all.dropWhile (!malformed lookup ·.key)).foldl (put (reached lookup))
          ((all.takeWhile (!malformed lookup ·.key)).foldl (put (reached lookup)) s) :=
      (foldl_put_of_none behind _).symm
    _ = all.foldl (put (reached lookup)) s := by rw [← List.foldl_append, split]

/-! ## What a lookup holds -/

/-- A variable holds a value that can be read. -/
def readable (lookup : String → Option String) (key : String) : Bool :=
  (lookup key).isSome && !malformed lookup key

theorem isSome_number (lookup : String → Option String) {key : String}
    (other : key ≠ "PERF_LOG_LEVEL") :
    ((lookup key).bind number?).isSome = readable lookup key := by
  rw [readable, malformed]
  cases lookup key with
  | none => rfl
  | some raw => cases read : number? raw <;> simp [other, read]

theorem isSome_level (lookup : String → Option String) :
    ((lookup "PERF_LOG_LEVEL").bind Level.ofText?).isSome = readable lookup "PERF_LOG_LEVEL" := by
  rw [readable, malformed]
  cases lookup "PERF_LOG_LEVEL" with
  | none => rfl
  | some raw => cases read : Level.ofText? raw <;> simp [read]

theorem reached_eq (lookup : String → Option String) (key : String) :
    reached lookup key = none ∨ reached lookup key = lookup key := by
  rw [reached]
  split
  · exact .inr rfl
  · exact .inl rfl

theorem reached_of_fine (fine : ∀ key ∈ keys, malformed lookup key = false) {key : String}
    (known : key ∈ keys) : reached lookup key = lookup key := by
  rw [reached, if_pos]
  have whole : keys.takeWhile (!malformed lookup ·) = keys := by
    simpa [List.takeWhile_eq_self_iff] using fine
  rwa [whole]

end Override

namespace Settings

open Override

theorem holding_congr {first second : String → Option String}
    (same : ∀ key ∈ keys, first key = second key) (s : Settings) :
    s.holding first = s.holding second := by
  simp only [keys, List.forall_mem_cons] at same
  obtain ⟨upload, download, timeout, frames, level, -⟩ := same
  simp only [holding, upload, download, timeout, frames, level]

/-- A value that is there replaces what was put before it. -/
theorem getD_getD {α : Type} {first second : Option α}
    (covered : first.isSome = true → second.isSome = true) (a : α) :
    second.getD (first.getD a) = second.getD a := by
  cases first with
  | none => rfl
  | some value =>
      obtain ⟨other, rfl⟩ := Option.isSome_iff_exists.mp (covered rfl)
      rfl

/-- What is put first does not matter, if all of it is put again. -/
theorem holding_holding {first second : String → Option String}
    (covered : ∀ key ∈ keys, readable first key = true → readable second key = true)
    (s : Settings) : (s.holding first).holding second = s.holding second := by
  simp only [keys, List.forall_mem_cons] at covered
  obtain ⟨upload, download, timeout, frames, level, -⟩ := covered
  have replaced {key : String} (other : key ≠ "PERF_LOG_LEVEL")
      (covers : readable first key = true → readable second key = true) :
      ((first key).bind number?).isSome = true → ((second key).bind number?).isSome = true := by
    rwa [isSome_number first other, isSome_number second other]
  rw [← isSome_level first, ← isSome_level second] at level
  simp only [holding, getD_getD (replaced (by decide) upload),
    getD_getD (replaced (by decide) download), getD_getD level]
  rw [getD_getD (by simpa only [Option.isSome_map] using replaced (by decide) timeout),
    getD_getD (by simpa only [Option.isSome_map] using replaced (by decide) frames)]

/-- The settings are those that the lookup holds up to the first malformed variable. -/
theorem override_eq (lookup : String → Option String) (s : Settings) :
    s.override lookup =
      (s.holding (reached lookup),
        match keys.find? (malformed lookup) with
        | none => .ok ()
        | some key => .error (.config
            (if key = "PERF_LOG_LEVEL" then "Invalid PERF_LOG_LEVEL: " ++ (lookup key).getD ""
              else "Invalid value for " ++ key ++ ": '" ++ (lookup key).getD "" ++ "'"))) := by
  have first : keys.find? (malformed lookup) =
      (all.find? (malformed lookup ·.key)).map (·.key) := by
    rw [keys_eq, List.find?_map]
    rfl
  rw [override, apply_eq (fun _ member => member), foldl_put_reached, foldl_put_all, first]
  cases found : all.find? (malformed lookup ·.key) with
  | none => rfl
  | some o => simp only [Option.map_some, refusal_eq (List.mem_of_find?_eq_some found)]

/-- An override succeeds just if no variable is malformed, whatever the settings are. -/
theorem override_ok_iff {s : Settings} :
    (s.override lookup).2 = .ok () ↔ ∀ key ∈ keys, malformed lookup key = false := by
  rw [override_eq]
  cases found : keys.find? (malformed lookup) with
  | none => simpa using found
  | some key =>
      have bad := List.find?_some found
      have known := List.mem_of_find?_eq_some found
      simpa using ⟨key, known, bad⟩

theorem override_of_fine (fine : ∀ key ∈ keys, malformed lookup key = false) (s : Settings) :
    s.override lookup = (s.holding lookup, .ok ()) := by
  refine Prod.ext ?_ (override_ok_iff.mpr fine)
  rw [override_eq]
  exact holding_congr (fun key known => reached_of_fine fine known) s

/-- Without a malformed value all variables override. The first malformed one ends it: its fault
names it and quotes its value, what is before it overrides, and the rest stays as it is. Doing it
again changes nothing, and when it is done again after a failure and succeeds, with all variables
of the first time, it is as if it had not failed. -/
theorem overrides_resume (lookup : String → Option String) (s : Settings) :
    ((∀ key ∈ keys, malformed lookup key = false) →
      s.override lookup = (s.holding lookup, .ok ())) ∧
    (∀ key, keys.find? (malformed lookup) = some key → ∃ raw, lookup key = some raw ∧
      s.override lookup = (s.holding (reached lookup), .error (.config
        (if key = "PERF_LOG_LEVEL" then "Invalid PERF_LOG_LEVEL: " ++ raw
          else "Invalid value for " ++ key ++ ": '" ++ raw ++ "'")))) ∧
    ((s.override lookup).1.logging.appName = s.logging.appName ∧
      (s.override lookup).1.logging.showTarget = s.logging.showTarget) ∧
    ((s.override lookup).2 = .ok () →
      (s.override lookup).1.override lookup = s.override lookup) ∧
    (∀ retry, ((s.override lookup).1.override retry).2 = .ok () →
      (∀ key ∈ keys, (lookup key).isSome = true → (retry key).isSome = true) →
      (s.override lookup).1.override retry = s.override retry) := by
  have resume : ∀ retry, ((s.override lookup).1.override retry).2 = .ok () →
      (∀ key ∈ keys, (lookup key).isSome = true → (retry key).isSome = true) →
      (s.override lookup).1.override retry = s.override retry := by
    intro retry succeeds defined
    have fine := override_ok_iff.mp succeeds
    rw [override_of_fine fine, override_of_fine fine, override_eq, holding_holding]
    intro key known read
    rw [readable, fine key known, Bool.not_false, Bool.and_true]
    refine defined key known ?_
    rcases reached_eq lookup key with none | same
    · simp [readable, none] at read
    · rw [readable, same, Bool.and_eq_true] at read
      exact read.1
  refine ⟨fun fine => override_of_fine fine s, fun key found => ?_, ?_, fun succeeds => ?_, resume⟩
  · have bad := List.find?_some found
    cases held : lookup key with
    | none => simp [malformed, held] at bad
    | some raw => exact ⟨raw, rfl, by simp only [override_eq, found, held, Option.getD_some]⟩
  · rw [override_eq]
    exact ⟨rfl, rfl⟩
  · exact resume lookup (override_ok_iff.mpr (override_ok_iff.mp succeeds)) fun _ _ held => held

-- The second variable is malformed, and the third one waits for another attempt.
example :
    let lookup := fun key => ([("PERF_UPLOAD_BYTES", "7"), ("PERF_DOWNLOAD_BYTES", "x"),
      ("PERF_TIMEOUT_MS", "9")].lookup key)
    (({} : Settings).override lookup).2 =
        .error (.config "Invalid value for PERF_DOWNLOAD_BYTES: 'x'") ∧
      (({} : Settings).override lookup).1.protocol.uploadSize = 7 ∧
      (({} : Settings).override lookup).1.protocol.timeout = ({} : Settings).protocol.timeout := by
  decide

end Settings

end RoundTrip
