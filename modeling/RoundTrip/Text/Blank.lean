/-!
# White space

The characters with the Unicode property White_Space, and the removal of such
characters from both ends of a text.
-/

namespace RoundTrip.Text

def isBlank (c : Char) : Bool :=
  let n := c.toNat
  (9 ≤ n && n ≤ 13) || n == 32 || n == 133 || n == 160 || n == 5760 || (8192 ≤ n && n ≤ 8202)
    || n == 8232 || n == 8233 || n == 8239 || n == 8287 || n == 12288

/-- Remove white space from both ends. -/
def trim (text : List Char) : List Char :=
  ((text.dropWhile isBlank).reverse.dropWhile isBlank).reverse

theorem dropWhile_isBlank {blanks text : List Char} (blank : ∀ c ∈ blanks, isBlank c)
    (dark : ∀ c ∈ text.head?, isBlank c = false) : (blanks ++ text).dropWhile isBlank = text := by
  rw [List.dropWhile_append_of_pos blank]
  cases text with
  | nil => rfl
  | cons c text => simp [dark c rfl]

/-- A text with white space around it, or none. -/
def Padded (core text : List Char) : Prop :=
  ∃ left right, text = left ++ core ++ right ∧ (∀ c ∈ left, isBlank c) ∧ ∀ c ∈ right, isBlank c

/-- Nothing but white space is removed. -/
theorem padded_trim (text : List Char) : Padded (trim text) text := by
  have blank (text : List Char) : ∀ c ∈ text.takeWhile isBlank, isBlank c :=
    List.all_eq_true.mp List.all_takeWhile
  refine ⟨text.takeWhile isBlank, ((text.dropWhile isBlank).reverse.takeWhile isBlank).reverse,
    ?_, blank text, by simpa using blank (text.dropWhile isBlank).reverse⟩
  rw [trim, List.append_assoc, ← List.reverse_append, List.takeWhile_append_dropWhile,
    List.reverse_reverse, List.takeWhile_append_dropWhile]

/-- All white space around a text without any is removed. -/
theorem trim_of_padded {core text : List Char} (padded : Padded core text) (some : core ≠ [])
    (dark : ∀ c ∈ core, isBlank c = false) : trim text = core := by
  obtain ⟨left, right, rfl, before, behind⟩ := padded
  have first : ∀ c ∈ (core ++ right).head?, isBlank c = false := by
    intro c isHead
    rw [List.head?_append, Option.or_of_isSome (by simpa using some)] at isHead
    exact dark c (List.mem_of_mem_head? isHead)
  have last : ∀ c ∈ core.reverse.head?, isBlank c = false :=
    fun c isHead => dark c (List.mem_reverse.mp (List.mem_of_mem_head? isHead))
  rw [trim, List.append_assoc, dropWhile_isBlank before first, List.reverse_append,
    dropWhile_isBlank (by simpa using behind) last, List.reverse_reverse]

end RoundTrip.Text
