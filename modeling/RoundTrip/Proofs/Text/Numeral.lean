import Mathlib.Data.List.Induction
import RoundTrip.Text.Blank
import RoundTrip.Text.Numeral

/-!
# Which texts are numerals

A numeral is a run of digits, with one plus sign in front of it or none (`IsNumeral`), and no other
text is read as a number (`unsigned?_eq_some_iff`). The digits of a number are its decimal form
behind any number of zeros (`isNumeral_iff`). None of a positive number's own digits is a leading
zero (`toDigits_eq_cons`).
-/

namespace RoundTrip.Text

/-! ## Digits -/

theorem digitValue?_of_isDigit {c : Char} (digit : c.isDigit) :
    digitValue? 10 c = some (c.toNat - '0'.toNat) := by
  have bounds := Char.isDigit_iff_toNat.mp digit
  have small : c.toNat - '0'.toNat < 10 := by
    have ends : '0'.toNat = 48 ∧ '9'.toNat = 57 := ⟨rfl, rfl⟩
    omega
  simp only [digitValue?, digit, ↓reduceIte, small]

theorem isDigit_of_digitValue? {c : Char} {value : Nat} (read : digitValue? 10 c = some value) :
    c.isDigit := by
  cases digit : c.isDigit with
  | true => rfl
  | false =>
      -- Letters are digits of larger bases only.
      simp only [digitValue?, digit, Bool.false_eq_true, ↓reduceIte] at read
      have small := (Option.ite_none_right_eq_some.mp read).1
      split at small
      · omega
      · split at small <;> omega

theorem exists_digitChar {c : Char} (digit : c.isDigit) : ∃ d < 10, c = Nat.digitChar d := by
  have bounds := Char.isDigit_iff_toNat.mp digit
  have ends : '0'.toNat = 48 ∧ '9'.toNat = 57 := ⟨rfl, rfl⟩
  have small : c.toNat - 48 < 10 := by omega
  refine ⟨c.toNat - 48, small, Char.toNat_inj.mp ?_⟩
  rw [Nat.toNat_digitChar_of_lt_ten small]
  omega

/-! ## Runs of digits -/

theorem extend?_eq {digits : List Char} (allDigits : ∀ c ∈ digits, c.isDigit) (value : Nat) :
    extend? 10 value digits = some (Nat.ofDigitChars 10 digits value) := by
  induction digits generalizing value with
  | nil => rfl
  | cons c digits ih =>
      rw [List.forall_mem_cons] at allDigits
      simp [extend?, digitValue?_of_isDigit allDigits.1, ih allDigits.2, Nat.ofDigitChars_cons,
        Nat.mul_comm]

theorem isDigit_of_extend? {text : List Char} {value n : Nat}
    (extended : extend? 10 value text = some n) : ∀ c ∈ text, c.isDigit := by
  induction text generalizing value with
  | nil => exact List.forall_mem_nil _
  | cons c rest ih =>
      obtain ⟨digit, read, extended⟩ := Option.bind_eq_some_iff.mp extended
      exact List.forall_mem_cons.mpr ⟨isDigit_of_digitValue? read, ih extended⟩

theorem digits?_eq_some_iff {text : List Char} {n : Nat} :
    digits? 10 text = some n ↔
      text ≠ [] ∧ (∀ c ∈ text, c.isDigit) ∧ Nat.ofDigitChars 10 text 0 = n := by
  cases text with
  | nil => exact ⟨nofun, fun numeral => absurd rfl numeral.1⟩
  | cons c rest =>
      constructor
      · intro read
        have digits := isDigit_of_extend? read
        rw [digits?, extend?_eq digits] at read
        · exact ⟨List.cons_ne_nil c rest, digits, Option.some.inj read⟩
        · nofun
      · rintro ⟨-, digits, rfl⟩
        exact extend?_eq digits 0

theorem isDigit_of_mem_toDigits {n : Nat} : ∀ c ∈ Nat.toDigits 10 n, c.isDigit :=
  fun _ => Nat.isDigit_of_mem_toDigits (by decide) (Nat.le_refl 10)

theorem extend?_toDigits (n : Nat) : extend? 10 0 (Nat.toDigits 10 n) = some n := by
  rw [extend?_eq isDigit_of_mem_toDigits, Nat.ofDigitChars_ten_toDigits]

/-- The first digit of a number is zero just if the number is. -/
theorem toDigits_eq_cons (n : Nat) :
    ∃ d digits, Nat.toDigits 10 n = d :: digits ∧ d.isDigit ∧
      (d = '0' → n = 0 ∧ digits = []) := by
  induction n using Nat.strongRecOn with
  | ind n ih =>
      rw [Nat.toDigits_eq_if (by decide)]
      split
      case isTrue single =>
        refine ⟨n.digitChar, [], rfl, by simp [single], fun zero => ⟨?_, rfl⟩⟩
        simpa using zero
      case isFalse more =>
        obtain ⟨d, digits, split, digit, zero⟩ := ih (n / 10) (by omega)
        refine ⟨d, digits ++ [(n % 10).digitChar], by simp [split], digit, fun isZero => ?_⟩
        have := (zero isZero).1
        omega

/-- Digits are zeros and the decimal form of the number that they make. -/
theorem exists_zeros {digits : List Char} (some : digits ≠ []) (all : ∀ c ∈ digits, c.isDigit) :
    ∃ zeros, digits =
      List.replicate zeros '0' ++ Nat.toDigits 10 (Nat.ofDigitChars 10 digits 0) := by
  induction digits using List.reverseRecOn with
  | nil => exact absurd rfl some
  | append_singleton front c ih =>
      obtain ⟨d, small, rfl⟩ := exists_digitChar (all c (by simp))
      rw [Nat.ofDigitChars_append, Nat.ofDigitChars_cons_digitChar_of_lt_ten small,
        Nat.ofDigitChars_nil]
      cases front with
      | nil => exact ⟨0, by simp [Nat.toDigits_of_lt_base small]⟩
      | cons first front =>
          obtain ⟨zeros, same⟩ :=
            ih (by simp) fun c member => all c (List.mem_append_left _ member)
          generalize Nat.ofDigitChars 10 (first :: front) 0 = value at same ⊢
          rcases Nat.eq_zero_or_pos value with rfl | positive
          · -- The zero in front is one more leading zero.
            refine ⟨zeros + 1, ?_⟩
            simp [same, Nat.toDigits_of_lt_base small, List.replicate_succ']
          · refine ⟨zeros, ?_⟩
            rw [← Nat.toDigits_append_toDigits (by decide) positive small, same,
              Nat.toDigits_of_lt_base small, List.append_assoc]

/-! ## Numerals -/

/-- Digits that make this number, with one plus sign in front of them or none. -/
def IsNumeral (text : List Char) (n : Nat) : Prop :=
  ∃ digits, (text = digits ∨ text = '+' :: digits) ∧ digits ≠ [] ∧
    (∀ c ∈ digits, c.isDigit) ∧ Nat.ofDigitChars 10 digits 0 = n

variable {text : List Char} {n : Nat}

theorem isNumeral_iff :
    IsNumeral text n ↔ ∃ sign ∈ [[], ['+']], ∃ zeros,
      text = sign ++ (List.replicate zeros '0' ++ Nat.toDigits 10 n) := by
  constructor
  · rintro ⟨digits, signed, some, all, rfl⟩
    obtain ⟨zeros, same⟩ := exists_zeros some all
    rcases signed with rfl | rfl
    · exact ⟨[], by simp, zeros, same⟩
    · exact ⟨['+'], by simp, zeros, congrArg ('+' :: ·) same⟩
  · rintro ⟨sign, isSign, zeros, rfl⟩
    have signed : sign = [] ∨ sign = ['+'] := by simpa using isSign
    refine ⟨List.replicate zeros '0' ++ Nat.toDigits 10 n,
      signed.imp (congrArg (· ++ _)) (congrArg (· ++ _)), by simp [Nat.toDigits_ne_nil], ?_,
      by simp [Nat.ofDigitChars_append]⟩
    intro c member
    rcases List.mem_append.mp member with zero | own
    · rw [List.eq_of_mem_replicate zero]
      rfl
    · exact isDigit_of_mem_toDigits c own

theorem IsNumeral.ne_nil (numeral : IsNumeral text n) : text ≠ [] := by
  obtain ⟨digits, rfl | rfl, some, -⟩ := numeral
  · exact some
  · exact List.cons_ne_nil _ _

theorem IsNumeral.isDigit (numeral : IsNumeral text n) : ∀ c ∈ text, c.isDigit ∨ c = '+' := by
  obtain ⟨digits, rfl | rfl, -, all, -⟩ := numeral
  · exact fun c member => .inl (all c member)
  · exact List.forall_mem_cons.mpr ⟨.inr rfl, fun c member => .inl (all c member)⟩

theorem IsNumeral.not_blank (numeral : IsNumeral text n) : ∀ c ∈ text, isBlank c = false := by
  intro c member
  rcases numeral.isDigit c member with digit | rfl
  · obtain ⟨d, small, rfl⟩ := exists_digitChar digit
    rw [isBlank, Nat.toNat_digitChar_of_lt_ten small]
    simp
    omega
  · rfl

/-- A sign stands in front only. -/
theorem IsNumeral.isDigit_tail (numeral : IsNumeral text n) : ∀ c ∈ text.tail, c.isDigit := by
  obtain ⟨digits, rfl | rfl, -, all, -⟩ := numeral
  · exact fun c member => all c (List.mem_of_mem_tail member)
  · exact all

theorem isNumeral_plus {rest : List Char} :
    IsNumeral ('+' :: rest) n ↔ digits? 10 rest = some n := by
  rw [digits?_eq_some_iff]
  constructor
  · rintro ⟨digits, rfl | same, some, all, value⟩
    · exact absurd (all '+' List.mem_cons_self) (by decide)
    · cases same
      exact ⟨some, all, value⟩
  · exact fun numeral => ⟨rest, .inr rfl, numeral⟩

theorem isNumeral_of_unsigned (unsigned : ∀ rest, text ≠ '+' :: rest) :
    IsNumeral text n ↔ digits? 10 text = some n := by
  rw [digits?_eq_some_iff]
  constructor
  · rintro ⟨digits, rfl | same, numeral⟩
    · exact numeral
    · exact absurd same (unsigned digits)
  · exact fun numeral => ⟨text, .inl rfl, numeral⟩

/-- What is read as a number are the numerals below the bound. -/
theorem unsigned?_eq_some_iff {bound : Nat} :
    unsigned? bound text = some n ↔ IsNumeral text n ∧ n < bound := by
  -- The digits are all of the text, or all that follows the sign.
  obtain ⟨digits, read, numeral⟩ : ∃ digits,
      unsigned? bound text = (digits? 10 digits).filter (· < bound) ∧
        (IsNumeral text n ↔ digits? 10 digits = some n) := by
    by_cases signed : ∃ rest, text = '+' :: rest
    · obtain ⟨rest, rfl⟩ := signed
      refine ⟨rest, ?_, isNumeral_plus⟩
      cases read : digits? 10 rest <;> simp [unsigned?, read, Option.filter]
    · simp only [not_exists] at signed
      refine ⟨text, ?_, isNumeral_of_unsigned signed⟩
      cases read : digits? 10 text <;> simp [unsigned?, read, Option.filter]
  rw [read, numeral, Option.filter_eq_some_iff, decide_eq_true_iff]

end RoundTrip.Text
