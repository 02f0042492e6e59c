import RoundTrip.Document

/-!
# What single values are read from

A number is read from the document of this number, and a text from the document of this text,
and from no other (`natural_eq_ok_iff`, `string_eq_ok_iff`).
-/

namespace RoundTrip

theorem map_eq_ok_iff {ε α β : Type} {f : α → β} {outcome : Except ε α} {b : β} :
    outcome.map f = .ok b ↔ ∃ a, outcome = .ok a ∧ f a = b := by
  cases outcome <;> simp [Except.map]

namespace Document

variable {d : Document} {bound n : Nat} {expected text : String}

theorem natural_ofNat (fits : n < bound) (expected : String) :
    (int n).natural bound expected = .ok n :=
  if_pos fits

theorem natural_eq_ok_iff : d.natural bound expected = .ok n ↔ d = .int n ∧ n < bound := by
  constructor
  · intro found
    match d, found with
    | int (.ofNat m), found =>
        rw [natural] at found
        split at found
        case isTrue fits =>
          cases found
          exact ⟨rfl, fits⟩
        case isFalse => cases found
  · rintro ⟨rfl, fits⟩
    exact natural_ofNat fits expected

theorem string_text (text : String) : (Document.text text).string = .ok text :=
  rfl

theorem flag_bool (b : Bool) : (bool b).flag = .ok b :=
  rfl

theorem string_eq_ok_iff : d.string = .ok text ↔ d = .text text := by
  cases d <;> simp [string]

end Document

end RoundTrip
