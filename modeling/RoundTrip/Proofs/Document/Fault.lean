import RoundTrip.Document.Fault
import RoundTrip.Proofs.Document

/-!
# Which documents are faults

`Means` lists the documents that are read as faults, each with its fault; every other document
is refused (`ofDocument_eq_ok_iff`). What is written for a fault is the document that was read, but
that a name with nothing beside it is written bare (`toDocument_of_means`).

Main result: every fault but those of the stream itself is read back from what is written for it,
and nothing else is read (`faults_are_read_exactly`).
-/

namespace RoundTrip

/-- A name without the nothing beside it. -/
def Document.bare : Document → Document
  | .table [(name, .null)] => .text name
  | d => d

namespace Fault

/-- The document stands for this fault. -/
inductive Means : Document → Fault → Prop
  | timeout : Means (.text "Timeout") .timeout
  | closed : Means (.text "ConnectionClosed") .closed
  | timeoutAlone : Means (.table [("Timeout", .null)]) .timeout
  | closedAlone : Means (.table [("ConnectionClosed", .null)]) .closed
  | violation {n : Nat} : n < 4294967296 →
      Means (.table [("ProtocolViolation", .int n)]) (.violation (.ofNat n))
  | oversized {n : Nat} : n < 18446744073709551616 →
      Means (.table [("OversizedFrame", .int n)]) (.oversized n)
  | framing (reason : String) : Means (.table [("Framing", .text reason)]) (.framing reason)
  | unsupported (reason : String) :
      Means (.table [("UnsupportedOperation", .text reason)]) (.unsupported reason)
  | config (reason : String) : Means (.table [("ConfigError", .text reason)]) (.config reason)
  | custom (reason : String) : Means (.table [("Custom", .text reason)]) (.custom reason)

variable {d value : Document} {fault : Fault} {kind : String} {id : CorrelationId}

/-! ## Reading -/

theorem nothing_eq_ok_iff : nothing value = .ok () ↔ value = .null := by
  cases value <;> simp [nothing]

theorem readId_eq_ok_iff :
    readId value = .ok id ↔ ∃ n : Nat, value = .int n ∧ n < 4294967296 ∧ .ofNat n = id := by
  rw [readId, map_eq_ok_iff]
  simp only [Document.natural_eq_ok_iff, UInt32.size, and_assoc]

theorem means_of_ofName (read : ofName kind = .ok fault) : Means (.text kind) fault := by
  rw [ofName] at read
  split at read
  case isTrue named =>
    cases read
    cases named
    exact .timeout
  case isFalse =>
    split at read
    case isTrue named =>
      cases read
      cases named
      exact .closed
    case isFalse => split at read <;> cases read

theorem means_of_ofMember (read : ofMember kind value = .ok fault) :
    Means (.table [(kind, value)]) fault := by
  rw [ofMember.eq_def] at read
  split at read
  case h_9 => cases read
  all_goals obtain ⟨held, found, rfl⟩ := map_eq_ok_iff.mp read
  case h_2 =>
    obtain ⟨n, rfl, small, rfl⟩ := readId_eq_ok_iff.mp found
    exact .violation small
  case h_3 =>
    obtain ⟨rfl, small⟩ := Document.natural_eq_ok_iff.mp found
    exact .oversized small
  case h_4 => exact nothing_eq_ok_iff.mp found ▸ .timeoutAlone
  case h_5 => exact nothing_eq_ok_iff.mp found ▸ .closedAlone
  all_goals rw [Document.string_eq_ok_iff.mp found]
  case h_1 => exact .framing held
  case h_6 => exact .unsupported held
  case h_7 => exact .config held
  case h_8 => exact .custom held

theorem ofDocument_eq_ok_iff : ofDocument d = .ok fault ↔ Means d fault := by
  constructor
  · intro read
    match d, read with
    | .text kind, read => exact means_of_ofName read
    | .table [(kind, value)], read => exact means_of_ofMember read
  · intro means
    cases means with
    | violation small =>
        exact map_eq_ok_iff.mpr ⟨_, readId_eq_ok_iff.mpr ⟨_, rfl, small, rfl⟩, rfl⟩
    | oversized small =>
        exact map_eq_ok_iff.mpr ⟨_, Document.natural_ofNat small "usize", rfl⟩
    | _ => rfl

/-! ## Writing -/

theorem toDocument_of_means (means : Means d fault) : fault.toDocument = .ok d.bare := by
  cases means with
  | violation small =>
      rw [toDocument, UInt32.toNat_ofNat_of_lt' small]
      rfl
  | _ => rfl

/-- A fault that has a written form is what this form stands for. -/
theorem means_toDocument (fits : ∀ size, fault = .oversized size → size < 18446744073709551616)
    (ours : ∀ reason, fault ≠ .io reason) : ∃ d, fault.toDocument = .ok d ∧ Means d fault := by
  cases fault with
  | io reason => exact absurd rfl (ours reason)
  | framing reason => exact ⟨_, rfl, .framing reason⟩
  | violation id =>
      have means := Means.violation id.toNat_lt
      rw [UInt32.ofNat_toNat] at means
      exact ⟨_, rfl, means⟩
  | oversized size => exact ⟨_, rfl, .oversized (fits size rfl)⟩
  | timeout => exact ⟨_, rfl, .timeout⟩
  | closed => exact ⟨_, rfl, .closed⟩
  | unsupported reason => exact ⟨_, rfl, .unsupported reason⟩
  | config reason => exact ⟨_, rfl, .config reason⟩
  | custom reason => exact ⟨_, rfl, .custom reason⟩

/-- Every fault is read back from its written form, if its size is one of 64 bits; faults of the
stream have none. A document is read just if it stands for one, and what is written for this fault
is the document itself, but that a name with nothing beside it is written bare. -/
theorem faults_are_read_exactly :
    (∀ fault : Fault, (∀ size, fault = .oversized size → size < 18446744073709551616) →
      (∀ reason, fault ≠ .io reason) →
      ∃ d, fault.toDocument = .ok d ∧ ofDocument d = .ok fault) ∧
    (∀ reason, ∃ mismatch, (io reason).toDocument = .error mismatch) ∧
    ∀ d : Document, (∀ fault, ofDocument d = .ok fault ↔ Means d fault) ∧
      ∀ fault, ofDocument d = .ok fault → fault.toDocument = .ok d.bare := by
  refine ⟨fun fault fits ours => ?_, fun reason => ⟨_, rfl⟩, fun d => ⟨?_, ?_⟩⟩
  · obtain ⟨d, written, means⟩ := means_toDocument fits ours
    exact ⟨d, written, ofDocument_eq_ok_iff.mpr means⟩
  · exact fun fault => ofDocument_eq_ok_iff
  · exact fun fault read => toDocument_of_means (ofDocument_eq_ok_iff.mp read)

end Fault

end RoundTrip
