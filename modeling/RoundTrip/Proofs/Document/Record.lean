import Mathlib.Data.List.Perm.Basic
import RoundTrip.Document
import RoundTrip.Proofs.Keyed

/-!
# Records in both of their forms

A document holds the values of a record in a table, under the names of the fields, or in a list,
in the order of the fields (`Record.Holds`). A table may have them in any order, and among members
that no field is named for.

Main result: a record is read alike from all documents that hold its values
(`Record.read_of_holds`).
-/

namespace RoundTrip

variable {δ : Type}

/-- A field takes this value, and this is what becomes of a draft. -/
def Field.Takes (field : Field δ) (value : Document) (set : δ → δ) : Prop :=
  ∀ draft, field.put value draft = .ok (set draft)

/-- A field that reads a value and sets it. -/
theorem Field.Takes.of_map {α : Type} {read : Document → Except Mismatch α} {set : α → δ → δ}
    {value : Document} {a : α} (reads : read value = .ok a) (name : String) (required : Bool) :
    Field.Takes ⟨name, required, fun value draft => (read value).map (set · draft)⟩ value
      (set a) := by
  intro draft
  simp only [reads]
  rfl

namespace Record

/-- A document that holds these values of a record, where these are the names of all its
fields. -/
inductive Holds (names : List String) (own : List (String × Document)) : Document → Prop
  | table {members : List (String × Document)}
      (same : (members.filter (·.1 ∈ names)).Perm own) : Holds names own (.table members)
  | list : Holds names own (.list (own.map (·.2)))

/-- A table of the values alone. -/
theorem Holds.of_names {names : List String} {own : List (String × Document)}
    (named : ∀ member ∈ own, member.1 ∈ names) : Holds names own (.table own) :=
  .table (.of_eq (List.filter_eq_self.mpr fun member isOwn => decide_eq_true (named member isOwn)))

/-- The first fields take these values, in turn, and no other field is required. -/
inductive Fits : List (Field δ) → List (String × Document) → List (δ → δ) → Prop
  | rest {fields} (optional : ∀ field ∈ fields, field.required = false) : Fits fields [] []
  | field {fields field value set own sets} (takes : field.Takes value set)
      (fits : Fits fields own sets) :
      Fits (field :: fields) ((field.name, value) :: own) (set :: sets)

def names (fields : List (Field δ)) : List String := fields.map (·.name)

/-- What becomes of a draft, one field after another. -/
def build (sets : List (δ → δ)) (draft : δ) : δ := sets.foldl (fun draft set => set draft) draft

variable {fields : List (Field δ)} {members own : List (String × Document)} {sets : List (δ → δ)}

/-! ## Lists -/

theorem putItems_nil (optional : ∀ field ∈ fields, field.required = false) (form : Form)
    (title : String) (total count : Nat) (draft : δ) :
    putItems form title total fields [] count draft = .ok draft := by
  induction fields with
  | nil => rfl
  | cons field fields ih =>
      rw [List.forall_mem_cons] at optional
      rw [putItems, optional.1, ih optional.2]
      rfl

theorem putItems_of_fits (fits : Fits fields own sets) (form : Form) (title : String)
    (total count : Nat) (draft : δ) :
    putItems form title total fields (own.map (·.2)) count draft = .ok (build sets draft) := by
  induction fits generalizing count draft with
  | rest optional => exact putItems_nil optional form title total count draft
  | field takes _ ih =>
      rw [List.map_cons, putItems, takes draft]
      exact ih (count + 1) _

/-! ## Tables -/

/-- The field that a member is named for takes its value. -/
def Named (fields : List (Field δ)) (member : String × Document) (set : δ → δ) : Prop :=
  ∃ field ∈ fields, field.name = member.1 ∧ field.Takes member.2 set

theorem named_of_fits (fits : Fits fields own sets) : List.Forall₂ (Named fields) own sets := by
  induction fits with
  | rest => exact .nil
  | field takes _ ih =>
      refine .cons ⟨_, List.mem_cons_self, rfl, takes⟩ (ih.imp ?_)
      rintro member set ⟨field, known, named⟩
      exact ⟨field, List.mem_cons_of_mem _ known, named⟩

/-- What no field is named for is passed over. -/
theorem putMembers_filter (fields : List (Field δ)) (members : List (String × Document))
    (draft : δ) :
    putMembers fields (members.filter (·.1 ∈ names fields)) draft =
      putMembers fields members draft := by
  induction members generalizing draft with
  | nil => rfl
  | cons member members ih =>
      by_cases known : member.1 ∈ names fields
      · rw [List.filter_cons_of_pos (by simpa using known)]
        simp only [putMembers, ih]
      · have unknown : fields.find? (·.name = member.1) = none := by simpa [names] using known
        rw [List.filter_cons_of_neg (by simpa using known), ih, putMembers, unknown]

theorem putMembers_of_named (apart : (names fields).Nodup)
    (named : List.Forall₂ (Named fields) members sets) (draft : δ) :
    putMembers fields members draft = .ok (build sets draft) := by
  induction named generalizing draft with
  | nil => rfl
  | cons named _ ih =>
      obtain ⟨field, known, same, takes⟩ := named
      simp only [putMembers, (find?_key_eq_some_iff apart).mpr ⟨known, same⟩, takes draft]
      exact ih _

/-- The order of two fields does not matter. -/
def Commute (first second : δ → δ) : Prop := ∀ draft, first (second draft) = second (first draft)

theorem build_perm {others : List (δ → δ)} (perm : sets.Perm others)
    (commute : sets.Pairwise Commute) (draft : δ) : build sets draft = build others draft := by
  have any := commute.forall_of_forall_of_flip (fun _ _ _ => rfl)
    (commute.imp fun commutes draft => (commutes draft).symm)
  rw [build, build]
  exact perm.foldl_eq' (fun _ isFirst _ isSecond draft => any isSecond isFirst draft) draft

/-! ## Both forms -/

/-- A record is read from its values, however a document holds them. -/
theorem read_of_holds {record : Record δ} {d : Document} (fits : Fits record.fields own sets)
    (apart : (names record.fields).Nodup) (commute : sets.Pairwise Commute)
    (holds : Holds (names record.fields) own d) (form : Form) :
    record.read form d = .ok (build sets record.blank) := by
  cases holds with
  | list => exact putItems_of_fits fits form _ _ 0 _
  | table same =>
      -- The steps stand in the order of the members then.
      obtain ⟨reordered, named, perm⟩ := List.perm_comp_forall₂ same (named_of_fits fits)
      rw [read, ← putMembers_filter, putMembers_of_named apart named,
        build_perm perm.symm commute]

end Record

end RoundTrip
