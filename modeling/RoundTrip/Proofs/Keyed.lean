import Mathlib.Data.List.Nodup

/-!
# Lists in which a key names one item

Entries, deadlines and fields are found by a key that no two of them share.
-/

namespace RoundTrip

variable {α κ : Type} {key : α → κ} {items : List α}

/-- Where no two have the same key, a key finds the one that has it. -/
theorem find?_key_eq_some_iff [DecidableEq κ] (distinct : (items.map key).Nodup) {k : κ}
    {item : α} : items.find? (key · = k) = some item ↔ item ∈ items ∧ key item = k := by
  constructor
  · intro found
    exact ⟨List.mem_of_find?_eq_some found, by simpa using List.find?_some found⟩
  · rintro ⟨member, rfl⟩
    cases found : items.find? (key · = key item) with
    | none => exact absurd (decide_eq_true rfl) (List.find?_eq_none.mp found item member)
    | some other =>
        have same : key other = key item := by simpa using List.find?_some found
        rw [List.inj_on_of_nodup_map distinct (List.mem_of_find?_eq_some found) member same]

/-- With distinct keys, a key picks out the item that it finds. -/
theorem filter_key_eq_find? [DecidableEq κ] (distinct : (items.map key).Nodup) (k : κ) :
    items.filter (key · = k) = (items.find? (key · = k)).toList := by
  induction items with
  | nil => rfl
  | cons item items ih =>
      obtain ⟨own, distinct⟩ := List.nodup_cons.mp distinct
      by_cases same : key item = k
      · have others : items.filter (key · = k) = [] := by
          rw [List.filter_eq_nil_iff]
          intro other member also
          exact own (List.mem_map.mpr ⟨other, member, (of_decide_eq_true also).trans same.symm⟩)
        simp [same, others]
      · simp [same, ih distinct]

/-- A key that is not in use yet may be added. -/
theorem nodup_map_concat {item : α} (distinct : (items.map key).Nodup)
    (unused : ∀ other ∈ items, key other ≠ key item) : ((items ++ [item]).map key).Nodup := by
  rw [List.map_append, List.nodup_append]
  refine ⟨distinct, List.nodup_singleton _, ?_⟩
  intro old oldMember own ownMember
  obtain ⟨other, member, rfl⟩ := List.mem_map.mp oldMember
  rw [List.mem_singleton.mp ownMember]
  exact unused other member

end RoundTrip
