import RoundTrip.Toml.Quoted

/-!
# Quoted texts are read back

Between double quotes every text can be written: what would end it or could not stand there
is escaped (`readEscaped_writeEscaped`, and `readEscaped_block` for a block). Between single
quotes a text stands as it is, if nothing in it would end it (`readLiteral_text`,
`readLiteral_block`). In a block up to two quotes in a row belong to the text, also right
before the three that close it, and the reader gives back what it took for the end too early
(`Blocks.read_cons`).

Main result: whichever form is chosen for a text, reading gives the text
(`read_write`).
-/

namespace RoundTrip.Toml

/-- A class of characters tells one that is in it from one that is not. -/
theorem ne_of_class {holds : Char → Bool} {c d : Char} (isIn : holds c = true)
    (isOut : holds d = false) : c ≠ d := by
  rintro rfl
  rw [isIn] at isOut
  cases isOut

namespace Quoted

variable {block : Bool} {c quote : Char} {text rest : List Char}

/-! ## The end of a block -/

/-- The quotes that close a block. -/
def closing (quote : Char) : List Char := [quote, quote, quote]

/-- How a reader of blocks takes the quotes of its kind. -/
structure Blocks (quote : Char) (read : List Char → Parsed) : Prop where
  close : ∀ rest, read (quote :: quote :: quote :: rest) = some (blockEnd quote rest)
  keep : ∀ rest, ¬ [quote, quote] <+: rest → read (quote :: rest) = push quote (read rest)

theorem blockEnd_clear (clear : rest.head? ≠ some quote) : blockEnd quote rest = ([], rest) := by
  match rest with
  | [] => rfl
  | [a] => simp_all [blockEnd]
  | a :: b :: rest => simp_all [blockEnd]

theorem blockEnd_one (clear : rest.head? ≠ some quote) :
    blockEnd quote (quote :: rest) = ([quote], rest) := by
  match rest with
  | [] => simp [blockEnd]
  | a :: rest => simp_all [blockEnd]

theorem blockEnd_two : blockEnd quote (quote :: quote :: rest) = ([quote, quote], rest) := by
  simp [blockEnd]

namespace Blocks

variable {read : List Char → Parsed} (blocks : Blocks quote read)

include blocks

theorem read_nil (clear : rest.head? ≠ some quote) :
    read (closing quote ++ rest) = some ([], rest) :=
  (blocks.close rest).trans (congrArg some (blockEnd_clear clear))

/-- A quote belongs to the text. If the closing ones follow it, or one more does before them,
the reader sees the end of the block too early, and gives the quotes back. -/
theorem read_cons {written : List Char} (clear : rest.head? ≠ some quote)
    (apart : ¬ [quote, quote] <+: written)
    (short : written = [] ∨ written = [quote] → text = written)
    (tail : read (written ++ (closing quote ++ rest)) = some (text, rest)) :
    read (quote :: (written ++ (closing quote ++ rest))) = some (quote :: text, rest) := by
  match written with
  | [] =>
      rw [short (.inl rfl)]
      exact (blocks.close _).trans (congrArg some (blockEnd_one clear))
  | [a] =>
      by_cases same : a = quote
      · subst same
        rw [short (.inr rfl)]
        exact (blocks.close _).trans (congrArg some blockEnd_two)
      · rw [blocks.keep _ (by simp [Ne.symm same]), tail]
        rfl
  | a :: b :: written =>
      rw [blocks.keep _ (by simpa using apart), tail]
      rfl

end Blocks

/-! ## What is escaped -/

theorem scalar?_hex : ∀ n < 128,
    scalar? ['0', '0', hex (n / 16), hex (n % 16)] = some (Char.ofNat n) := by
  decide +kernel

theorem readEscaped_letter {e : Char} (letter : e ∈ ['b', 't', 'n', 'f', 'r', '"', '\\']) :
    readEscaped block false ('\\' :: e :: rest) =
      (escaped? e).bind fun x => push x (readEscaped block false rest) := by
  simp only [List.mem_cons, List.not_mem_nil, or_false] at letter
  rcases letter with rfl | rfl | rfl | rfl | rfl | rfl | rfl <;>
    (rw [readEscaped.eq_def]; simp [isLineEnd, skipBlanks, isBlank, newline?])

theorem readEscaped_code (a b c d : Char) :
    readEscaped block false ('\\' :: 'u' :: a :: b :: c :: d :: rest) =
      (scalar? [a, b, c, d]).bind fun x => push x (readEscaped block false rest) := by
  rw [readEscaped.eq_def]
  simp [isLineEnd, skipBlanks, isBlank, newline?]

theorem toNat_lt_of_isControl (control : isControl c = true) : c.toNat < 128 := by
  simp only [isControl, Bool.or_eq_true, decide_eq_true_eq] at control
  omega

/-- A letter stands for the character, or its code does. -/
theorem escape?_cases {sequence : List Char} (escapes : escape? c = some sequence) :
    (∃ e ∈ ['b', 't', 'n', 'f', 'r', '"', '\\'], sequence = [e] ∧ escaped? e = some c) ∨
    isControl c = true ∧ sequence = ['u', '0', '0', hex (c.toNat / 16), hex (c.toNat % 16)] := by
  grind [escape?, escaped?]

/-- An escape is read as the character that it is written for. -/
theorem readEscaped_escape {sequence : List Char} (escapes : escape? c = some sequence) :
    readEscaped block false ('\\' :: (sequence ++ rest)) =
      push c (readEscaped block false rest) := by
  rcases escape?_cases escapes with ⟨e, letter, rfl, same⟩ | ⟨control, rfl⟩
  · exact (readEscaped_letter letter).trans (by rw [same]; rfl)
  · refine (readEscaped_code '0' '0' (hex (c.toNat / 16)) (hex (c.toNat % 16))).trans ?_
    rw [scalar?_hex c.toNat (toNat_lt_of_isControl control), Char.ofNat_toNat]
    rfl

/-- What needs no escape stands for itself. -/
theorem readEscaped_plain (unquoted : c ≠ '"') (plain : escape? c = none) :
    readEscaped block false (c :: rest) = push c (readEscaped block false rest) := by
  have visible : isControl c = false ∧ c ≠ '\\' := by
    unfold escape? at plain
    grind
  have shown : isPlain c = true := by
    simp only [isControl, Bool.or_eq_false_iff, decide_eq_false_iff_not] at visible
    simp only [isPlain, Bool.or_eq_true, decide_eq_true_eq, Bool.and_eq_true]
    omega
  have noLineEnd : c ≠ '\n' ∧ c ≠ '\r' :=
    ⟨(ne_of_class rfl visible.1).symm, (ne_of_class rfl visible.1).symm⟩
  rw [readEscaped.eq_def]
  simp [unquoted, visible.2, noLineEnd, shown]

theorem readEscaped_newline :
    readEscaped true false ('\n' :: rest) = push '\n' (readEscaped true false rest) := by
  rw [readEscaped.eq_def]
  simp

/-! ## Double quotes -/

theorem readEscaped_writeEscaped (seen : Nat) (text rest : List Char) :
    readEscaped false false (writeEscaped false seen text ++ '"' :: rest) = some (text, rest) := by
  induction text generalizing seen with
  | nil => exact readEscaped_quote false rest
  | cons c text ih =>
      by_cases isQuote : c = '"'
      · subst isQuote
        simp [writeEscaped, readEscaped_letter, ih, push, escaped?]
      · cases escapes : escape? c with
        | none => simp [writeEscaped, isQuote, escapes, readEscaped_plain isQuote escapes, ih, push]
        | some sequence =>
            simp [writeEscaped, isQuote, escapes, readEscaped_escape escapes, ih, push]

theorem blocks_readEscaped : Blocks '"' (readEscaped true false) where
  close rest := readEscaped_quote true ('"' :: '"' :: rest)
  keep rest apart := by
    rw [readEscaped_quote, if_pos rfl]
    split
    · exact absurd (by simp) apart
    · rfl

/-- After two quotes none is written as it is. -/
theorem head?_writeEscaped (seen : Nat) (d : Char) (text : List Char)
    (enough : seen = 2 ∨ d ≠ '"') : (writeEscaped true seen (d :: text)).head? ≠ some '"' := by
  rw [writeEscaped]
  grind

theorem apart_writeEscaped {seen : Nat} (one : 1 ≤ seen) (two : seen ≤ 2) (text : List Char) :
    ¬ ['"', '"'] <+: writeEscaped true seen text := by
  match text with
  | [] => simp [writeEscaped]
  | [d] => grind [writeEscaped]
  | d :: d' :: text =>
      have second := head?_writeEscaped 2 d' text (.inl rfl)
      grind [writeEscaped]

theorem short_writeEscaped {seen : Nat} (text : List Char)
    (short : writeEscaped true seen text = [] ∨ writeEscaped true seen text = ['"']) :
    text = writeEscaped true seen text := by
  match text with
  | [] => rfl
  | [d] => grind [writeEscaped]
  | d :: d' :: text => grind [writeEscaped]

/-- A block is read up to the quotes that close it, however many of its text come before. -/
theorem readEscaped_block {seen : Nat} (two : seen ≤ 2) (text : List Char)
    (clear : rest.head? ≠ some '"') :
    readEscaped true false (writeEscaped true seen text ++ (closing '"' ++ rest)) =
      some (text, rest) := by
  induction text generalizing seen with
  | nil => exact blocks_readEscaped.read_nil clear
  | cons c text ih =>
      by_cases isQuote : c = '"'
      · subst isQuote
        by_cases third : seen = 2
        · simp [writeEscaped, third, readEscaped_letter, ih, push, escaped?]
        · simp only [writeEscaped, ↓reduceIte, Bool.true_and, decide_eq_true third, ne_eq,
            List.cons_append]
          have next : seen + 1 ≤ 2 := by omega
          exact blocks_readEscaped.read_cons clear (apart_writeEscaped (by omega) next text)
            (short_writeEscaped text) (ih next)
      · by_cases isNewline : c = '\n'
        · subst isNewline
          simp [writeEscaped, readEscaped_newline, ih, push]
        · cases escapes : escape? c with
          | none =>
              simp [writeEscaped, isQuote, isNewline, escapes, readEscaped_plain isQuote escapes,
                ih, push]
          | some sequence =>
              simp [writeEscaped, isQuote, isNewline, escapes, readEscaped_escape escapes, ih, push]

/-! ## Single quotes -/

/-- Between single quotes all but hidden characters stand for themselves. -/
theorem readLiteral_plain (unquoted : c ≠ '\'') (visible : isHidden c = false)
    (allowed : block = true ∨ c ≠ '\n') :
    readLiteral block (c :: rest) = push c (readLiteral block rest) := by
  rw [readLiteral.eq_def]
  by_cases isNewline : c = '\n'
  · simp_all
  · have noReturn : c ≠ '\r' := (ne_of_class rfl visible).symm
    have shown : isPlain c = true := by
      grind [isHidden, isControl, isPlain]
    simp [unquoted, isNewline, noReturn, shown]

theorem readLiteral_text (text rest : List Char) (visible : text.any isHidden = false)
    (unquoted : '\'' ∉ text) (unbroken : '\n' ∉ text) :
    readLiteral false (text ++ '\'' :: rest) = some (text, rest) := by
  induction text with
  | nil => exact readLiteral_quote false rest
  | cons c text ih =>
      simp only [List.any_cons, Bool.or_eq_false_iff, List.mem_cons, not_or] at *
      rw [List.cons_append, readLiteral_plain (Ne.symm unquoted.1) visible.1
        (.inr (Ne.symm unbroken.1)), ih visible.2 unquoted.2 unbroken.2]
      rfl

theorem blocks_readLiteral : Blocks '\'' (readLiteral true) where
  close rest := readLiteral_quote true ('\'' :: '\'' :: rest)
  keep rest apart := by
    rw [readLiteral_quote, if_pos rfl]
    split
    · exact absurd (by simp) apart
    · rfl

theorem apart_of_hasTriple {seen : Nat} (one : 1 ≤ seen) (two : seen ≤ 2)
    (few : hasTriple quote seen text = false) : ¬ [quote, quote] <+: text := by
  match text with
  | [] => simp
  | [d] => simp
  | d :: d' :: text => grind [hasTriple]

theorem readLiteral_block {seen : Nat} (two : seen ≤ 2) (text : List Char)
    (visible : text.any isHidden = false) (few : hasTriple '\'' seen text = false)
    (clear : rest.head? ≠ some '\'') :
    readLiteral true (text ++ (closing '\'' ++ rest)) = some (text, rest) := by
  induction text generalizing seen with
  | nil => exact blocks_readLiteral.read_nil clear
  | cons c text ih =>
      simp only [List.any_cons, Bool.or_eq_false_iff] at visible
      by_cases isQuote : c = '\''
      · subst isQuote
        simp only [hasTriple, ↓reduceIte, Bool.or_eq_false_iff, beq_eq_false_iff_ne] at few
        have next : seen + 1 ≤ 2 := by omega
        exact blocks_readLiteral.read_cons clear (apart_of_hasTriple (by omega) next few.2)
          (fun _ => rfl) (ih next visible.2 few.2)
      · rw [hasTriple, if_neg isQuote] at few
        rw [List.cons_append, readLiteral_plain isQuote visible.1 (.inl rfl),
          ih (Nat.zero_le 2) visible.2 few]
        rfl

/-! ## The chosen form -/

theorem newline?_eq_none (noNewline : text.head? ≠ some '\n') (noReturn : text.head? ≠ some '\r') :
    newline? text = none := by
  unfold newline?
  split <;> simp_all

/-- The line end that begins a block is skipped, and none of the text is. -/
theorem skipFirstLineEnd_append {body : List Char}
    (unbroken : '\n' ∉ text → newline? body = none) :
    skipFirstLineEnd (firstLineEnd text ++ body) = body := by
  by_cases broken : '\n' ∈ text
  · simp [firstLineEnd, broken, skipFirstLineEnd, newline?]
  · simp [firstLineEnd, broken, skipFirstLineEnd, unbroken broken]

theorem newline?_writeEscaped (text rest : List Char) (unbroken : '\n' ∉ text) :
    newline? (writeEscaped true 0 text ++ (closing '"' ++ rest)) = none := by
  match text with
  | [] => rfl
  | c :: text => apply newline?_eq_none <;> grind [writeEscaped, escape?]

theorem newline?_literal (text rest : List Char) (visible : text.any isHidden = false)
    (unbroken : '\n' ∉ text) : newline? (text ++ (closing '\'' ++ rest)) = none := by
  match text with
  | [] => rfl
  | c :: text =>
      simp only [List.any_cons, Bool.or_eq_false_iff] at visible
      have noReturn : c ≠ '\r' := (ne_of_class rfl visible.1).symm
      simp only [List.mem_cons, not_or] at unbroken
      exact newline?_eq_none (by simpa using Ne.symm unbroken.1) (by simpa using noReturn)

theorem read_escaped {body : List Char} (apart : ¬ ['"', '"'] <+: body) :
    read ('"' :: body) = readEscaped false false body := by
  unfold read
  split <;> simp_all

theorem read_literal {body : List Char} (apart : ¬ ['\'', '\''] <+: body) :
    read ('\'' :: body) = readLiteral false body := by
  unfold read
  split <;> simp_all

/-- What `choose` has found out where it leaves a text as it is. -/
theorem literal_of_choose (chosen : choose text = .literal) :
    text.any isHidden = false ∧ '\'' ∉ text ∧ '\n' ∉ text := by
  grind [choose]

theorem literalBlock_of_choose (chosen : choose text = .literalBlock) :
    text.any isHidden = false ∧ hasTriple '\'' 0 text = false := by
  grind [choose]

/-- A written text is read back, where no quote follows that could belong to it. -/
theorem read_write (text rest : List Char) (clear : rest.head? ≠ some '"')
    (clear' : rest.head? ≠ some '\'') : read (write text ++ rest) = some (text, rest) := by
  unfold write
  cases chosen : choose text with
  | escaped =>
      have apart : ¬ ['"', '"'] <+: writeEscaped false 0 text ++ '"' :: rest := by
        cases text with
        | nil => cases rest <;> simp_all [writeEscaped, eq_comm]
        | cons c text => grind [writeEscaped]
      simpa [writeAs] using (read_escaped apart).trans (readEscaped_writeEscaped 0 text rest)
  | literal =>
      obtain ⟨visible, unquoted, unbroken⟩ := literal_of_choose chosen
      have apart : ¬ ['\'', '\''] <+: text ++ '\'' :: rest := by
        cases text with
        | nil => cases rest <;> simp_all [eq_comm]
        | cons c text => simp_all
      simpa [writeAs] using
        (read_literal apart).trans (readLiteral_text text rest visible unquoted unbroken)
  | escapedBlock =>
      have body := readEscaped_block (Nat.zero_le 2) text clear
      rw [← skipFirstLineEnd_append (newline?_writeEscaped text rest)] at body
      simpa [writeAs, read, closing] using body
  | literalBlock =>
      obtain ⟨visible, few⟩ := literalBlock_of_choose chosen
      have body := readLiteral_block (Nat.zero_le 2) text visible few clear'
      rw [← skipFirstLineEnd_append (newline?_literal text rest visible)] at body
      simpa [writeAs, read, closing] using body

end Quoted

end RoundTrip.Toml
