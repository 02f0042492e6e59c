import RoundTrip.Proofs.Text.Numeral
import RoundTrip.Proofs.Toml.Quoted
import RoundTrip.Toml.Value
import RoundTrip.Toml.Writer

/-!
# Values are read back

A number, a text and a truth value are read back from the line that they are written on. The
digits of a number could begin a date or a time, so what follows them counts: at the end of
the line both of these fail.

Main result: a written value is read back up to the end of its line (`read_writeValue`).
-/

namespace RoundTrip.Toml

variable {digits rest : List Char} {c stop : Char}

/-! ## Numbers are not moments -/

namespace Moment

/-- Where a character ends a run of digits, a count of digits ends before it. -/
theorem digits?_front (allDigits : ∀ c ∈ digits, c.isDigit) (noDigit : stop.isDigit = false)
    {count n : Nat} {after : List Char}
    (found : digits? count (digits ++ stop :: rest) = some (n, after)) :
    ∃ more, (∀ c ∈ more, c.isDigit) ∧ after = more ++ stop :: rest := by
  rw [digits?] at found
  split at found
  case isFalse => cases found
  case isTrue taken =>
    obtain ⟨value, -, same⟩ := Option.bind_eq_some_iff.mp found
    cases same
    have within : count ≤ digits.length := by
      refine Nat.le_of_not_lt fun beyond => ?_
      have reached : stop ∈ (digits ++ stop :: rest).take count := by
        rw [List.take_append, List.take_cons (by omega)]
        simp
      simp [List.all_eq_true.mp taken.2 stop reached] at noDigit
    refine ⟨digits.drop count, fun c mem => allDigits c (List.mem_of_mem_drop mem), ?_⟩
    rw [List.drop_append_of_le_length within]

theorem digits?_cons {count : Nat} (noDigit : stop.isDigit = false) :
    digits? (count + 1) (stop :: rest) = none := by
  simp [digits?, noDigit]

/-- Digits alone are separated by nothing. -/
theorem expect?_front (allDigits : ∀ c ∈ digits, c.isDigit) (noDigit : c.isDigit = false)
    (other : stop ≠ c) : expect? c (digits ++ stop :: rest) = none := by
  match digits with
  | [] => simp [expect?, other]
  | d :: digits =>
      have differs : d ≠ c := ne_of_class (allDigits d List.mem_cons_self) noDigit
      simp [expect?, differs]

theorem read_digits (allDigits : ∀ c ∈ digits, c.isDigit) (rest : List Char) :
    read (digits ++ '\n' :: rest) = none := by
  have noDate : date? (digits ++ '\n' :: rest) = none := by
    rw [date?]
    cases year : digits? 4 (digits ++ '\n' :: rest) with
    | none => rfl
    | some found =>
        obtain ⟨more, allMore, same⟩ := digits?_front allDigits (by decide) year
        simp [same, expect?_front allMore]
  have noTime : time? (digits ++ '\n' :: rest) = none := by
    rw [time?, pair?]
    cases hour : digits? 2 (digits ++ '\n' :: rest) with
    | none => rfl
    | some found =>
        obtain ⟨more, allMore, same⟩ := digits?_front allDigits (by decide) hour
        simp [same, expect?_front allMore]
  rw [read, noDate, noTime]

theorem read_cons (noDigit : c.isDigit = false) : read (c :: rest) = none := by
  simp [read, date?, time?, pair?, digits?_cons noDigit]

end Moment

/-! ## Numbers -/

namespace Number

theorem digits_append (allDigits : ∀ c ∈ digits, c.isDigit) (rest : List Char) :
    Number.digits 10 (digits ++ '\n' :: rest) = (digits, '\n' :: rest) := by
  induction digits with
  | nil => rfl
  | cons c digits ih =>
      rw [List.forall_mem_cons] at allDigits
      have noUnderscore : c ≠ '_' := ne_of_class allDigits.1 rfl
      rw [List.cons_append, Number.digits.eq_def]
      simp [noUnderscore, Text.digitValue?_of_isDigit allDigits.1, ih allDigits.2]

/-- The digits of a number, up to the end of the line, are a whole number. -/
theorem whole?_toDigits (n : Nat) (rest : List Char) :
    whole? (Nat.toDigits 10 n ++ '\n' :: rest) = some (Nat.toDigits 10 n, '\n' :: rest) := by
  have run := digits_append (Text.isDigit_of_mem_toDigits (n := n)) rest
  obtain ⟨d, digits, split, digit, zero⟩ := Text.toDigits_eq_cons n
  rw [split] at run ⊢
  by_cases isZero : d = '0'
  · rw [isZero, (zero isZero).2]
    rfl
  · have noUnderscore : d ≠ '_' := ne_of_class digit rfl
    simp_all [whole?, digits?]

theorem valueOf_toDigits (n : Nat) : valueOf 10 (Nat.toDigits 10 n) = n := by
  rw [valueOf, Text.extend?_toDigits]
  rfl

theorem decimal?_eq {text : List Char} {negative : Bool} {n : Nat}
    (sign : signed text = (negative, Nat.toDigits 10 n ++ '\n' :: rest)) :
    decimal? text = (integer? negative n).map fun n => (n, '\n' :: rest) := by
  have whole := whole?_toDigits n rest
  have value := valueOf_toDigits n
  obtain ⟨d, digits, split, digit, -⟩ := Text.toDigits_eq_cons n
  have noName : d ≠ 'i' ∧ d ≠ 'n' := ⟨ne_of_class digit rfl, ne_of_class digit rfl⟩
  rw [split] at whole value sign
  rw [decimal?, sign]
  simp only [List.cons_append] at whole
  simp [noName, whole, afterWhole?, value]

theorem read_toDigits (n : Nat) (rest : List Char) :
    read (Nat.toDigits 10 n ++ '\n' :: rest) =
      (integer? false n).map fun n => (n, '\n' :: rest) := by
  have unsigned : signed (Nat.toDigits 10 n ++ '\n' :: rest) =
      (false, Nat.toDigits 10 n ++ '\n' :: rest) := by
    obtain ⟨d, digits, split, digit, -⟩ := Text.toDigits_eq_cons n
    have noSign : d ≠ '-' ∧ d ≠ '+' := ⟨ne_of_class digit rfl, ne_of_class digit rfl⟩
    simp [split, signed, noSign]
  rw [← decimal?_eq unsigned]
  obtain ⟨d, digits, split, digit, zero⟩ := Text.toDigits_eq_cons n
  rw [split]
  by_cases isZero : d = '0'
  · rw [isZero, (zero isZero).2]
    rfl
  · simp [read, isZero]

theorem read_minus (n : Nat) (rest : List Char) :
    read ('-' :: (Nat.toDigits 10 n ++ '\n' :: rest)) =
      (integer? true n).map fun n => (n, '\n' :: rest) :=
  decimal?_eq rfl

theorem integer?_eq {negative : Bool} {magnitude : Nat} {n : Int}
    (value : (if negative then -(magnitude : Int) else magnitude) = n) (fits : isInteger n) :
    integer? negative magnitude = some (.int n) := by
  subst value
  rw [integer?, if_pos fits]

theorem toList_ofNat (n : Nat) : (toString (Int.ofNat n)).toList = Nat.toDigits 10 n :=
  Nat.toList_repr

theorem toList_negSucc (n : Nat) :
    (toString (Int.negSucc n)).toList = '-' :: Nat.toDigits 10 (n + 1) := by
  show ("-" ++ (n + 1).repr).toList = _
  rw [String.toList_append, Nat.toList_repr]
  rfl

end Number

/-! ## Values -/

theorem Quoted.write_eq_cons (text : List Char) :
    ∃ quote body, Quoted.write text = quote :: body ∧ (quote = '"' ∨ quote = '\'') := by
  unfold Quoted.write
  cases Quoted.choose text with
  | escaped => exact ⟨'"', _, rfl, .inl rfl⟩
  | literal => exact ⟨'\'', _, rfl, .inr rfl⟩
  | escapedBlock => exact ⟨'"', _, rfl, .inl rfl⟩
  | literalBlock => exact ⟨'\'', _, rfl, .inr rfl⟩

namespace Value

/-- No single value begins with a blank, a bracket or a brace. -/
theorem scalar?_eq_none (opens : c ∈ [' ', '\t', '[', '\x7b']) : scalar? (c :: rest) = none := by
  simp only [List.mem_cons, List.not_mem_nil, or_false] at opens
  rcases opens with rfl | rfl | rfl | rfl <;> simp [scalar?, Moment.read_cons] <;> rfl

theorem read_of_scalar? {text : List Char} {found : Document × List Char}
    (single : scalar? text = some found) : read text = some found := by
  rw [read, readNested]
  · exact single
  all_goals
    rintro rest depth rfl
    simp [scalar?_eq_none] at single

theorem read_blank (blank : isBlank c) : read (c :: rest) = none := by
  simp only [isBlank, Bool.or_eq_true, decide_eq_true_eq] at blank
  rcases blank with rfl | rfl <;> rw [read, readNested] <;> simp [scalar?_eq_none]

theorem scalar?_number (begins : c.isDigit ∨ c = '-') (noMoment : Moment.read (c :: rest) = none) :
    scalar? (c :: rest) = Number.read (c :: rest) := by
  have noOther : c ≠ '"' ∧ c ≠ '\'' ∧ c ≠ 't' ∧ c ≠ 'f' := by
    refine ⟨?_, ?_, ?_, ?_⟩ <;>
      · rintro rfl
        exact absurd begins (by decide)
  simp [scalar?, noOther, noMoment]

theorem scalar?_int {n : Int} (fits : Number.isInteger n) (rest : List Char) :
    scalar? ((toString n).toList ++ '\n' :: rest) = some (.int n, '\n' :: rest) := by
  cases n with
  | ofNat n =>
      have noMoment := Moment.read_digits (Text.isDigit_of_mem_toDigits (n := n)) rest
      have read := Number.read_toDigits n rest
      obtain ⟨d, digits, split, digit, -⟩ := Text.toDigits_eq_cons n
      rw [Number.toList_ofNat]
      rw [split, List.cons_append] at noMoment read ⊢
      have value : Number.integer? false n = some (.int (.ofNat n)) := Number.integer?_eq rfl fits
      rw [scalar?_number (.inl digit) noMoment, read, value]
      rfl
  | negSucc n =>
      have value : Number.integer? true (n + 1) = some (.int (.negSucc n)) :=
        Number.integer?_eq rfl fits
      rw [Number.toList_negSucc, List.cons_append,
        scalar?_number (.inr rfl) (Moment.read_cons (by decide)), Number.read_minus, value]
      rfl

theorem scalar?_text (text : String) (rest : List Char) :
    scalar? (Quoted.write text.toList ++ '\n' :: rest) = some (.text text, '\n' :: rest) := by
  have read := Quoted.read_write text.toList ('\n' :: rest) (by simp) (by simp)
  obtain ⟨quote, body, split, isQuote⟩ := Quoted.write_eq_cons text.toList
  rw [split, List.cons_append] at read ⊢
  rcases isQuote with rfl | rfl <;> simp [scalar?, read]

theorem scalar?_bool (b : Bool) (rest : List Char) :
    scalar? ((toString b).toList ++ '\n' :: rest) = some (.bool b, '\n' :: rest) := by
  cases b <;> rfl

/-- A written value is read back up to the end of its line. -/
theorem read_writeValue {value : Document} {written : List Char}
    (writes : writeValue value = some written) (rest : List Char) :
    read (written ++ '\n' :: rest) = some (value, '\n' :: rest) := by
  cases value with
  | int n =>
      simp only [writeValue, Option.ite_none_right_eq_some, Option.some.injEq] at writes
      obtain ⟨fits, rfl⟩ := writes
      exact read_of_scalar? (scalar?_int fits rest)
  | text s =>
      cases writes
      exact read_of_scalar? (scalar?_text s rest)
  | bool b =>
      cases writes
      exact read_of_scalar? (scalar?_bool b rest)
  | _ => cases writes

end Value

end RoundTrip.Toml
