import Mathlib.Algebra.Group.Nat.Defs
import Mathlib.Data.List.Forall2
import RoundTrip.Proofs.Keyed
import RoundTrip.Proofs.Text.Numeral
import RoundTrip.Settings.Overrides

/-!
# Values of overrides

A number may stand in white space, a level may not. A level is a name in any case, or a numeral for
a rank (`Level.ofText?_eq_some_iff`).

Main result: the values of overrides that are accepted are exactly these, and what they stand for
is put into the settings (`override_values_exact`).
-/

namespace RoundTrip

namespace Text

/-! ## Letters in any case -/

/-- A character is this letter or the capital of it. -/
def IsCaseOf (c letter : Char) : Prop :=
  c = letter ∨ c.isUpper ∧ c.toNat + 32 = letter.toNat

theorem isUpper_iff_val {c : Char} : c.isUpper ↔ 65 ≤ c.val ∧ c.val ≤ 90 := decide_eq_true_iff

theorem isUpper_iff {c : Char} : c.isUpper ↔ 65 ≤ c.toNat ∧ c.toNat ≤ 90 :=
  isUpper_iff_val.trans (and_congr UInt32.le_iff_toNat_le UInt32.le_iff_toNat_le)

theorem isLower_iff {c : Char} : c.isLower ↔ 97 ≤ c.toNat ∧ c.toNat ≤ 122 := by
  refine (Bool.and_eq_true _ _).to_iff.trans ?_
  rw [decide_eq_true_iff, decide_eq_true_iff]
  exact and_congr UInt32.le_iff_toNat_le UInt32.le_iff_toNat_le

theorem toNat_toLower (c : Char) :
    c.toLower.toNat = if c.isUpper then c.toNat + 32 else c.toNat := by
  split
  case isTrue upper =>
    have lowered : c.toLower.val = c.val + 32 :=
      congrArg Char.val (dif_pos (isUpper_iff_val.mp upper))
    have small : c.val.toNat + 32 < 2 ^ 32 :=
      Nat.lt_of_le_of_lt (Nat.add_le_add_right (isUpper_iff.mp upper).2 32) (by decide)
    calc c.toLower.toNat = (c.val + 32).toNat := congrArg UInt32.toNat lowered
      _ = (c.val.toNat + 32) % 2 ^ 32 := UInt32.toNat_add _ _
      _ = c.toNat + 32 := Nat.mod_eq_of_lt small
  case isFalse other =>
    exact congrArg Char.toNat (dif_neg fun capital => other (isUpper_iff_val.mpr capital))

theorem toLower_eq_iff {c letter : Char} (lower : letter.isLower) :
    c.toLower = letter ↔ IsCaseOf c letter := by
  have small := isLower_iff.mp lower
  rw [IsCaseOf, ← Char.toNat_inj, ← Char.toNat_inj, toNat_toLower]
  simp only [isUpper_iff]
  split <;> omega

theorem map_toLower_eq_iff {text name : List Char} (lower : ∀ c ∈ name, c.isLower) :
    text.map Char.toLower = name ↔ List.Forall₂ IsCaseOf text name := by
  rw [← List.forall₂_eq_eq_eq, List.forall₂_map_left_iff]
  induction name generalizing text with
  | nil => simp
  | cons letter name ih =>
      rw [List.forall_mem_cons] at lower
      rw [List.forall₂_cons_right_iff, List.forall₂_cons_right_iff]
      simp only [toLower_eq_iff lower.1, ih lower.2]

/-- Numerals have no letters. -/
theorem not_isNumeral_of_letters {text : List Char} (letters : ∀ c ∈ text, c.toLower.isLower)
    (n : Nat) : ¬ IsNumeral text n := by
  intro numeral
  obtain ⟨c, member⟩ := List.exists_mem_of_ne_nil _ numeral.ne_nil
  have letter := letters c member
  rcases numeral.isDigit c member with digit | rfl
  · have ends : '0'.toNat = 48 ∧ '9'.toNat = 57 := ⟨rfl, rfl⟩
    have bounds := Char.isDigit_iff_toNat.mp digit
    rw [isLower_iff, toNat_toLower] at letter
    simp only [isUpper_iff] at letter
    split at letter <;> omega
  · exact absurd letter (by decide)

end Text

namespace Level

variable {text : String} {level : Level}

theorem isLower_name (level : Level) : ∀ c ∈ level.name.toList, c.isLower := by
  rw [← List.all_eq_true]
  cases level <;> decide

theorem rank_lt (level : Level) : level.rank < UInt64.size := by
  cases level <;> decide

theorem rank_injective : Function.Injective rank := by
  intro first second same
  cases first <;> cases second <;> first | rfl | cases same

theorem name_injective : Function.Injective fun level : Level => level.name.toList := by
  intro first second same
  cases first <;> cases second <;> first | rfl | exact absurd same (by decide)

theorem find?_all_eq_some_iff {κ : Type} [DecidableEq κ] {key : Level → κ}
    (apart : Function.Injective key) {k : κ} :
    all.find? (key · = k) = some level ↔ key level = k := by
  have known : level ∈ all := by cases level <;> decide
  have distinct : (all.map key).Nodup := List.Nodup.map apart (by decide)
  rw [find?_key_eq_some_iff distinct, and_iff_right known]

/-- A level is read from its name in any case and from the numerals for its rank. -/
theorem ofText?_eq_some_iff :
    ofText? text = some level ↔
      List.Forall₂ Text.IsCaseOf text.toList level.name.toList ∨
        Text.IsNumeral text.toList level.rank := by
  have ranked : Text.IsNumeral text.toList level.rank ↔
      Text.unsigned? UInt64.size text.toList = some level.rank := by
    rw [Text.unsigned?_eq_some_iff]
    exact (and_iff_left (rank_lt level)).symm
  rw [← Text.map_toLower_eq_iff (isLower_name level), ranked, ofText?]
  cases read : Text.unsigned? UInt64.size text.toList with
  | some n =>
      have unnamed : text.toList.map Char.toLower ≠ level.name.toList := by
        intro named
        refine Text.not_isNumeral_of_letters ?_ n (Text.unsigned?_eq_some_iff.mp read).1
        intro c member
        exact isLower_name level _ (named ▸ List.mem_map_of_mem member)
      rw [or_iff_right unnamed, Option.some.injEq, eq_comm (a := n)]
      exact find?_all_eq_some_iff rank_injective
  | none =>
      rw [or_iff_left nofun, eq_comm (b := level.name.toList)]
      exact find?_all_eq_some_iff name_injective

/-- Nothing is trimmed. -/
example : ofText? "+003" = some info ∧ ofText? "iNFO" = some info ∧ ofText? " info" = none := by
  decide

/-- The levels with their names and ranks. -/
def table : List (Level × String × Nat) :=
  [(error, "error", 1), (warn, "warn", 2), (info, "info", 3), (debug, "debug", 4),
    (trace, "trace", 5)]

theorem mem_table_iff {name : String} {rank : Nat} :
    (level, name, rank) ∈ table ↔ name = level.name ∧ rank = level.rank := by
  cases level <;> simp [table, Level.name, Level.rank]

end Level

namespace Override

open Text

variable {key raw : String} {set : Nat → Settings → Settings} {s next : Settings}

/-- The value of a number stands in white space, if in anything. -/
theorem put?_number_eq_some_iff :
    (number key set).put? raw s = some next ↔
      ∃ core n, Padded core raw.toList ∧ IsNumeral core n ∧ n < UInt64.size ∧
        next = set n s := by
  simp only [number, Option.map_eq_some_iff, unsigned?_eq_some_iff]
  constructor
  · rintro ⟨n, ⟨numeral, small⟩, rfl⟩
    exact ⟨trim raw.toList, n, padded_trim raw.toList, numeral, small, rfl⟩
  · rintro ⟨core, n, padded, numeral, small, rfl⟩
    rw [trim_of_padded padded numeral.ne_nil numeral.not_blank]
    exact ⟨n, ⟨numeral, small⟩, rfl⟩

theorem put?_logLevel_eq_some_iff :
    logLevel.put? raw s = some next ↔
      ∃ level name rank, (level, name, rank) ∈ Level.table ∧
        (List.Forall₂ IsCaseOf raw.toList name.toList ∨ IsNumeral raw.toList rank) ∧
        next = { s with logging := { s.logging with level } } := by
  simp only [logLevel, Option.map_eq_some_iff, Level.ofText?_eq_some_iff, Level.mem_table_iff]
  constructor
  · rintro ⟨level, accepted, rfl⟩
    exact ⟨level, _, _, ⟨rfl, rfl⟩, accepted, rfl⟩
  · rintro ⟨level, _, _, ⟨rfl, rfl⟩, accepted, rfl⟩
    exact ⟨level, accepted, rfl⟩

/-- A number is accepted just if its value is a numeral below 2⁶⁴, with white space around it or
none. The decimal form of each such number is one, behind any zeros and at most one plus sign.
Nothing is accepted where another sign, a separator or white space stands among the digits. A level
is accepted just if its value is the name of one in any case or a numeral for its rank, from one for
errors to five for traces, with nothing around it. -/
theorem override_values_exact (key raw : String) (set : Nat → Settings → Settings)
    (s : Settings) :
    (∀ next, (number key set).put? raw s = some next ↔
      ∃ core n, Padded core raw.toList ∧ IsNumeral core n ∧ n < 2 ^ 64 ∧ next = set n s) ∧
    (∀ n < 2 ^ 64, ∀ sign ∈ [[], ['+']], ∀ zeros,
      Padded (sign ++ (List.replicate zeros '0' ++ (toString n).toList)) raw.toList →
        (number key set).put? raw s = some (set n s)) ∧
    ((∃ c ∈ trim raw.toList, c.isDigit = false ∧ c ≠ '+') ∨
        (∃ c ∈ (trim raw.toList).tail, c.isDigit = false) →
      (number key set).put? raw s = none) ∧
    ∀ next, logLevel.put? raw s = some next ↔
      ∃ level name rank,
        (level, name, rank) ∈ [(Level.error, "error", 1), (.warn, "warn", 2), (.info, "info", 3),
          (.debug, "debug", 4), (.trace, "trace", 5)] ∧
        (List.Forall₂ IsCaseOf raw.toList name.toList ∨ IsNumeral raw.toList rank) ∧
        next = { s with logging := { s.logging with level } } := by
  refine ⟨fun next => put?_number_eq_some_iff, ?_, ?_, fun next => put?_logLevel_eq_some_iff⟩
  · intro n small sign isSign zeros padded
    refine put?_number_eq_some_iff.mpr ⟨_, n, padded, isNumeral_iff.mpr ?_, small, rfl⟩
    exact ⟨sign, isSign, zeros, by rw [Nat.toString_eq_repr, Nat.toList_repr]⟩
  · intro wrong
    rw [Option.eq_none_iff_forall_ne_some]
    intro next accepted
    obtain ⟨core, n, padded, numeral, -⟩ := put?_number_eq_some_iff.mp accepted
    rw [trim_of_padded padded numeral.ne_nil numeral.not_blank] at wrong
    rcases wrong with ⟨c, member, letter, unsigned⟩ | ⟨c, member, letter⟩
    · rcases numeral.isDigit c member with digit | sign
      · simp [digit] at letter
      · exact unsigned sign
    · simp [numeral.isDigit_tail c member] at letter

end Override

end RoundTrip
