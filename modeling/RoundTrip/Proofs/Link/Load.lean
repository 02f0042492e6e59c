import RoundTrip.Link.Load
import RoundTrip.Proofs.Ledger
import RoundTrip.Proofs.Link.Pipe

/-!
# Less to do

Every step of the writer (`Sending.load_step?`), of the reader (`Asking.load_readStep?`) and of the
responder (`Answering.load_step?`) leaves less to do. So the operations that a part uses up in one
turn are paid for by what it has done (`settleWithin_lowers`), and a part that has done nothing has
used up none.
-/

namespace RoundTrip

/-- If every step leaves less to do, work leaves at least so much less as it uses operations, and it
leaves less unless it makes no step. -/
theorem settleWithin_lowers {σ : Type} {step? : σ → Option σ} {isFree : σ → Bool}
    (measure : σ → Nat) (lowers : ∀ s next, step? s = some next → measure next < measure s)
    (fuel operations : Nat) (s : σ) :
    measure (settleWithin step? isFree fuel operations s).2 + operations ≤
        measure s + (settleWithin step? isFree fuel operations s).1 ∧
      (settleWithin step? isFree fuel operations s = (operations, s) ∨
        measure (settleWithin step? isFree fuel operations s).2 < measure s) := by
  induction fuel generalizing operations s with
  | zero => exact ⟨Nat.le_refl _, .inl rfl⟩
  | succ fuel ih =>
      cases operations with
      | zero => exact ⟨Nat.le_refl _, .inl rfl⟩
      | succ left =>
          rw [settleWithin]
          cases stepped : step? s with
          | none => exact ⟨Nat.le_refl _, .inl rfl⟩
          | some next =>
              have lower := lowers s next stepped
              obtain ⟨used, same⟩ := ih (if isFree s then left + 1 else left) next
              have bound : left ≤ if isFree s then left + 1 else left := by
                split
                · exact Nat.le_succ left
                · exact Nat.le_refl left
              refine ⟨by dsimp only; omega, .inr ?_⟩
              rcases same with same | fewer
              · simp only [same]
                exact lower
              · exact Nat.lt_trans fewer lower

theorem settleWithin_keeps {σ : Type} {step? : σ → Option σ} {isFree : σ → Bool} {Holds : σ → Prop}
    (keeps : ∀ s next, Holds s → step? s = some next → Holds next) (fuel operations : Nat) {s : σ}
    (holds : Holds s) : Holds (settleWithin step? isFree fuel operations s).2 := by
  induction fuel generalizing operations s with
  | zero => exact holds
  | succ fuel ih =>
      cases operations with
      | zero => exact holds
      | succ left =>
          rw [settleWithin]
          cases step : step? s with
          | none => exact holds
          | some next => exact ih _ (keeps s next holds step)

theorem Status.load_running : load running = 1 := rfl

theorem Status.load_of_ended {s : Status} (ended : s ≠ .running) : s.load = 0 := if_neg ended

theorem Payload.load_append (byte : Nat) (first later : List Bytes) :
    load byte (first ++ later) = load byte first + load byte later := by
  induction first with
  | nil => exact (Nat.zero_add _).symm
  | cons payload payloads ih => simp only [List.cons_append, load, ih, Nat.add_assoc]

/-- Bytes that are written were there to be written, and there are some. -/
theorem Stream.length_of_write {s stream : Stream} {bytes unsent : Bytes}
    (taken : s.write bytes = .taken unsent stream) (some : bytes ≠ []) :
    stream.written.length + unsent.length = s.written.length + bytes.length ∧
      unsent.length < bytes.length ∧ stream.inbox = s.inbox := by
  have positive := List.length_pos_iff.mpr some
  unfold write at taken
  split at taken
  · cases taken
  · split at taken
    · cases taken
    case isFalse room =>
      split at taken
      · cases taken
      · cases taken
        have whole := congrArg List.length (s.written_accept bytes)
        rw [List.length_append, List.length_append] at whole
        refine ⟨whole, ?_, s.inbox_accept bytes⟩
        split
        · exact positive
        case h_2 room' same =>
          have : room' ≠ 0 := fun none => room (same.trans (congrArg Option.some none))
          simp only [List.length_drop]
          omega

namespace Sending

variable {s next : Sending} (byte : Nat)

/-- A writer that ends has nothing more to do. -/
theorem load_close {status : Status} (running : s.writer.status = .running)
    (ended : status ≠ .running) : (s.close status).load byte < s.load byte := by
  have written : s.stream.shutWrite.written = s.stream.written := by
    rw [Stream.shutWrite]
    split <;> rfl
  rw [load, load, running, Status.load_running]
  simp only [close, written, Payload.load, Status.load_of_ended ended]
  omega

theorem load_step? (step : s.step? = some next) : next.load byte < s.load byte := by
  rw [step?] at step
  split at step
  case isTrue => cases step
  case isFalse running =>
    have running : s.writer.status = .running := Decidable.not_not.mp running
    split at step
    case isTrue writing =>
      rw [write?] at step
      split at step
      case h_1 => cases step
      case h_2 fault _ =>
        cases step
        rw [load, load, running, Status.load_running]
        simp only [breakOff, Payload.load, Status.load_of_ended (Status.failed_ne_running fault)]
        omega
      case h_3 unsent stream taken =>
        cases step
        obtain ⟨whole, fewer, -⟩ := Stream.length_of_write taken writing
        have bytes := congrArg (· * byte) whole
        simp only [Nat.add_mul] at bytes
        simp only [load, Nat.mul_succ]
        omega
    case isFalse idle =>
      rw [begin?] at step
      split at step
      case isTrue =>
        cases step
        exact load_close byte running Status.finished_ne_running
      case isFalse =>
        rw [takeNext?] at step
        split at step
        case h_1 payload queue first =>
          split at step
          case h_1 unsent encoded =>
            cases step
            rw [Frame.encode_eq] at encoded
            split at encoded
            case isTrue =>
              cases encoded
              simp only [load, first, Decidable.not_not.mp idle, Payload.load, Frame.length_ofPayload, List.length_nil]
              omega
            case isFalse => cases encoded
          case h_2 fault _ =>
            cases step
            exact load_close byte running (Status.failed_ne_running fault)
        case h_2 =>
          split at step
          · cases step
          · cases step
            exact load_close byte running Status.finished_ne_running

theorem load_settleWithin (operations : Nat) (s : Sending) :
    (s.settleWithin operations).2.load byte + operations ≤
        s.load byte + (s.settleWithin operations).1 ∧
      (s.settleWithin operations = (operations, s) ∨
        (s.settleWithin operations).2.load byte < s.load byte) :=
  settleWithin_lowers (load byte) (fun _ _ => load_step? byte) operations operations s

theorem inbox_settleWithin (operations : Nat) (s : Sending) :
    (s.settleWithin operations).2.stream.inbox = s.stream.inbox := by
  have keeps (t next : Sending) (kept : t.stream.inbox = s.stream.inbox)
      (step : t.step? = some next) : next.stream.inbox = s.stream.inbox :=
    (follows_stepSeeing? ((step?_eq_stepSeeing? t).symm.trans step)).inbox.trans kept
  exact settleWithin_keeps keeps operations operations rfl

end Sending

/-! ## The initiator -/

namespace Initiator

/-- Taking frames and closing make requests fewer. -/
theorem pendingCount_onFrame (payload : Bytes) (i : Initiator) :
    (i.onFrame payload).2.pendingCount ≤ i.pendingCount := by
  rw [onFrame]
  split
  · exact Nat.le_refl _
  case h_2 id _ =>
    rw [Ledger.resolve?_eq]
    cases i.ledger.table.find? id with
    | none => exact Nat.le_refl _
    | some entry => exact List.length_filter_le _ _

theorem pendingCount_onClose (i : Initiator) : i.onClose.2.pendingCount ≤ i.pendingCount := by
  rw [onClose, Ledger.close?, Outstanding.close?]
  split
  case h_1 => exact Nat.le_refl _
  case h_2 cancelled ledger closes =>
    split at closes
    · cases closes
    · cases closes
      show Outstanding.count (List.foldl Ledger.deliver _ _).table ≤ _
      rw [Ledger.table_deliverAll]
      exact Nat.zero_le _

end Initiator

namespace Asking

variable {a next : Asking} (byte : Nat)

theorem load_stop (running : a.reader = .running) {status : Status} (ended : status ≠ .running) :
    (a.stop status).load byte < a.load byte := by
  have outbound := (reads_stop a status ended).outbound
  rw [load, load, outbound, running, Status.load_running]
  show _ + status.load + _ < _
  rw [Status.load_of_ended ended]
  show Payload.load (byte + 1) _ + a.sending.load byte + a.sending.stream.inbox.length + 0
    + a.status.load < _
  omega

theorem load_takeFrame (running : a.reader = .running) {payload rest : Bytes}
    (shorter : rest.length < a.sending.stream.inbox.length) :
    (a.takeFrame payload rest).load byte < a.load byte ∧
      (a.takeFrame payload rest).initiator.pendingCount ≤ a.initiator.pendingCount := by
  have fewer := a.initiator.pendingCount_onFrame payload
  have outbound : (a.initiator.onFrame payload).2.outbound = a.initiator.outbound := by
    rw [Initiator.onFrame]
    split
    · rfl
    · split <;> rfl
  rw [takeFrame]
  cases taken : a.initiator.onFrame payload with
  | mk result initiator =>
  rw [taken] at fewer outbound
  let left : Asking := setStream { a.sending.stream with inbox := rest } { a with initiator }
  have lower : left.load byte < a.load byte := by
    show Payload.load (byte + 1) initiator.outbound.queued + a.sending.load byte + rest.length
      + a.reader.load + a.status.load < _
    rw [load, outbound]
    omega
  cases result with
  | ok => exact ⟨lower, fewer⟩
  | error fault =>
      simp only
      split
      · have stops := load_stop byte (a := left) running (Status.failed_ne_running fault)
        refine ⟨Nat.lt_trans stops lower, ?_⟩
        exact Nat.le_trans (Initiator.pendingCount_onClose initiator) fewer
      · exact ⟨lower, fewer⟩

theorem load_readStep? (step : a.readStep? = some next) :
    next.load byte < a.load byte ∧ next.initiator.pendingCount ≤ a.initiator.pendingCount := by
  rw [readStep?] at step
  split at step
  case isTrue => cases step
  case isFalse running =>
    have running := Decidable.not_not.mp running
    have stops {status : Status} (ended : status ≠ .running) :
        (a.stop status).load byte < a.load byte ∧
        (a.stop status).initiator.pendingCount ≤ a.initiator.pendingCount :=
      ⟨load_stop byte running ended, Initiator.pendingCount_onClose a.initiator⟩
    split at step
    case isTrue =>
      cases step
      exact stops Status.finished_ne_running
    case isFalse =>
      rw [readStream?] at step
      split at step
      case h_1 => cases step
      case h_2 payload rest found =>
        cases step
        exact load_takeFrame byte running (Stream.length_rest_of_next found)
      case h_3 =>
        cases step
        exact stops Status.finished_ne_running
      case h_4 fault _ =>
        cases step
        exact stops (Status.failed_ne_running fault)

theorem load_settle (fuel : Nat) (a : Asking) :
    (RoundTrip.settle readStep? fuel a).load byte ≤ a.load byte ∧
      (RoundTrip.settle readStep? fuel a).initiator.pendingCount ≤ a.initiator.pendingCount := by
  induction fuel generalizing a with
  | zero => exact ⟨Nat.le_refl _, Nat.le_refl _⟩
  | succ fuel ih =>
      rw [RoundTrip.settle]
      cases step : a.readStep? with
      | none => exact ⟨Nat.le_refl _, Nat.le_refl _⟩
      | some next =>
          obtain ⟨lower, fewer⟩ := load_readStep? byte step
          obtain ⟨rest, fewer'⟩ := ih next
          exact ⟨Nat.le_trans rest (Nat.le_of_lt lower), Nat.le_trans fewer' fewer⟩

/-- A reader that finds something to do has less to do afterwards. -/
theorem load_read (more : a.readStep? ≠ none) :
    a.read.load byte < a.load byte ∧ a.read.initiator.pendingCount ≤ a.initiator.pendingCount := by
  rw [read, RoundTrip.settle]
  cases step : a.readStep? with
  | none => exact absurd step more
  | some next =>
      obtain ⟨lower, fewer⟩ := load_readStep? byte step
      obtain ⟨rest, fewer'⟩ := load_settle byte (a.sending.stream.inbox.length + 1) next
      exact ⟨Nat.lt_of_le_of_lt rest lower, Nat.le_trans fewer' fewer⟩

theorem load_passOn (a : Asking) : a.passOn.load byte ≤ a.load byte ∧
    a.passOn.initiator.outbound.queued = [] ∧ a.passOn.initiator.ledger = a.initiator.ledger := by
  have folded (payloads : List Bytes) (w : Writer) :
      Payload.load (byte + 1) (payloads.foldl (fun w payload => (w.enqueue payload).2) w).queue ≤
        Payload.load (byte + 1) w.queue + Payload.load (byte + 1) payloads := by
    induction payloads generalizing w with
    | nil => exact Nat.le_refl _
    | cons payload payloads ih =>
        have one : Payload.load (byte + 1) (w.enqueue payload).2.queue ≤
            Payload.load (byte + 1) w.queue + Payload.load (byte + 1) [payload] := by
          rw [Writer.enqueue]
          split
          · exact Nat.le_of_eq (Payload.load_append _ _ _)
          · exact Nat.le_add_right _ _
        have all := ih (w.enqueue payload).2
        rw [← List.singleton_append, Payload.load_append]
        exact Nat.le_trans all (by omega)
  have queue := folded a.initiator.outbound.queued a.sending.writer
  obtain ⟨queue', same⟩ := sending_passOn a
  have own : (a.initiator.outbound.queued.foldl (fun w payload => (w.enqueue payload).2)
      a.sending.writer).queue = queue' := congrArg (·.writer.queue) same
  rw [own] at queue
  refine ⟨?_, rfl, rfl⟩
  rw [load, load, same]
  show Payload.load (byte + 1) [] + Sending.load byte { a.sending with writer.queue := queue' }
    + a.sending.stream.inbox.length + a.reader.load + a.status.load ≤ _
  simp only [Sending.load, Payload.load] at queue ⊢
  omega

/-- A writer that takes part of a turn uses an operation for every step, and each step leaves it
less to do. -/
theorem load_writeWithin (fresh : a.sending.stream.written = []) (operations : Nat) :
    (a.writeWithin operations).2.load byte + operations ≤
        a.load byte + (a.writeWithin operations).1 ∧
      ((a.writeWithin operations).2.load byte < a.load byte ∨
        (a.writeWithin operations).2.load byte ≤ a.load byte ∧
          (a.writeWithin operations).2.sending.stream.written = [] ∧
          (a.writeWithin operations).2.sending.stream.writeClosed =
            a.sending.stream.writeClosed) ∧
      (a.writeWithin operations).2.sending.stream.inbox = a.sending.stream.inbox ∧
      (a.writeWithin operations).2.limit = a.limit ∧
      (a.writeWithin operations).2.initiator.pendingCount = a.initiator.pendingCount := by
  obtain ⟨queue, same⟩ := sending_passOn a
  obtain ⟨passed, none, ledger⟩ := load_passOn byte a
  obtain ⟨used, moved⟩ := Sending.load_settleWithin byte operations a.passOn.sending
  have kept := Sending.inbox_settleWithin operations a.passOn.sending
  rw [writeWithin]
  generalize a.passOn.sending.settleWithin operations = result at used moved kept ⊢
  obtain ⟨left, sending⟩ := result
  -- What is queued was passed on, so nothing but the writer counts.
  have queued : (a.passOn.setSending sending).initiator.outbound.queued = [] := by
    rw [setSending]
    split
    · exact none
    · rfl
  have count : (a.passOn.setSending sending).initiator.pendingCount = a.initiator.pendingCount := by
    rw [setSending]
    split <;> rfl
  have both : (a.passOn.setSending sending).load byte + a.passOn.sending.load byte =
      a.passOn.load byte + sending.load byte := by
    rw [load, load, queued, none]
    show Payload.load (byte + 1) [] + sending.load byte + sending.stream.inbox.length
      + a.reader.load + a.status.load + _ = _ + a.reader.load + a.status.load + _
    rw [kept]
    omega
  have stream : a.passOn.sending.stream = a.sending.stream := congrArg (·.stream) same
  refine ⟨?_, ?_, kept.trans (congrArg (·.inbox) stream), rfl, count⟩
  · dsimp only at used ⊢
    omega
  · rcases moved with still | lower
    · cases still
      refine .inr ⟨by dsimp only; omega, ?_⟩
      exact ⟨(congrArg (·.written) stream).trans fresh, congrArg (·.writeClosed) stream⟩
    · refine .inl ?_
      dsimp only at lower ⊢
      omega

end Asking

/-! ## The responder -/

/-- A reply has a length of its own. -/
theorem Responder.length_of_reply {r : Responder} {request reply : Bytes}
    (answered : (r.reply request).1 = .ok reply) :
    reply.length = Payload.totalLength r.downloadSize := by
  rw [Responder.reply] at answered
  rcases Nat.lt_or_ge request.length CorrelationId.width with short | long
  · rw [Payload.reply_of_short short] at answered
    cases answered
  · rw [Payload.reply_of_long long] at answered
    cases answered
    rw [List.length_append, List.length_take, Nat.min_eq_left long, Payload.filler,
      List.length_replicate]
    rfl

namespace Answering

variable {a next : Answering}

theorem load_stop (running : a.status = .running) {status : Status} (ended : status ≠ .running) :
    (a.stop status).load < a.load := by
  have stream : (a.stop status).stream.inbox = a.stream.inbox ∧
      (a.stop status).stream.written = a.stream.written := by
    rw [stop]
    split
    · rw [Stream.shutWrite]
      split <;> exact ⟨rfl, rfl⟩
    · exact ⟨rfl, rfl⟩
  have share : (a.stop status).share = a.share := rfl
  have gone : (a.stop status).status.load = 0 := Status.load_of_ended ended
  rw [load, load, running, Status.load_running, stream.1, stream.2, share, gone]
  exact Nat.lt_succ_self _

/-- A byte of a frame counts more than the reply to it. -/
theorem load_takeFrame (running : a.status = .running) (idle : a.unsent = [])
    {payload rest : Bytes} (shorter : rest.length < a.stream.inbox.length) :
    (a.takeFrame payload rest).load < a.load ∧ (a.takeFrame payload rest).share = a.share := by
  have size : (a.responder.reply payload).2.downloadSize = a.responder.downloadSize := by
    rw [Responder.reply]
    split <;> rfl
  have bytes : rest.length * a.share + a.share ≤ a.stream.inbox.length * a.share := by
    rw [← Nat.succ_mul]
    exact Nat.mul_le_mul_right _ shorter
  have some : 0 < a.share := Nat.succ_pos _
  rw [takeFrame]
  cases answer : a.responder.reply payload with
  | mk result responder =>
  rw [answer] at size
  let taken : Answering := { a with responder, stream := { a.stream with inbox := rest } }
  have share : taken.share = a.share := by
    rw [Answering.share, Answering.share, size]
  have lower : taken.load < a.load := by
    show rest.length * taken.share + a.unsent.length * 4 + a.stream.written.length * 3
      + a.status.load < _
    rw [load, share]
    omega
  cases result with
  | error => exact ⟨lower, share⟩
  | ok reply =>
      have long := Responder.length_of_reply (congrArg Prod.fst answer)
      simp only
      split
      case h_1 unsent encoded =>
        rw [Frame.encode_eq] at encoded
        split at encoded
        case isTrue =>
          cases encoded
          refine ⟨?_, share⟩
          show rest.length * taken.share + (Frame.ofPayload reply).length * 4
            + a.stream.written.length * 3 + a.status.load < _
          rw [load, share, idle, Frame.length_ofPayload, long]
          have : a.share =
              4 * (Frame.overhead + Payload.totalLength a.responder.downloadSize) + 1 := rfl
          rw [List.length_nil]
          omega
        case isFalse => cases encoded
      case h_2 fault _ =>
        exact ⟨Nat.lt_trans (load_stop (a := taken) running (Status.failed_ne_running fault)) lower,
          share⟩

theorem load_step? (step : a.step? = some next) : next.load < a.load ∧ next.share = a.share := by
  rw [step?] at step
  split at step
  case isTrue => cases step
  case isFalse running =>
    have running : a.status = .running := Decidable.not_not.mp running
    split at step
    case isTrue writing =>
      rw [write?] at step
      split at step
      case h_1 => cases step
      case h_2 fault _ =>
        cases step
        exact ⟨load_stop running (Status.failed_ne_running fault), rfl⟩
      case h_3 unsent stream taken =>
        cases step
        obtain ⟨whole, fewer, inbox⟩ := Stream.length_of_write taken writing
        have share : share { a with
            unsent, stream,
            responder := if unsent = [] then a.responder.replySent a.replying else a.responder } =
            a.share := by
          rw [Answering.share, Answering.share]
          split <;> rfl
        refine ⟨?_, share⟩
        rw [load, load, share]
        simp only [inbox]
        omega
    case isFalse idle =>
      have idle : a.unsent = [] := Decidable.not_not.mp idle
      rw [read?] at step
      split at step
      case isTrue =>
        cases step
        exact ⟨load_stop running Status.finished_ne_running, rfl⟩
      case isFalse =>
        split at step
        case h_1 => cases step
        case h_2 payload rest found =>
          cases step
          exact load_takeFrame running idle (Stream.length_rest_of_next found)
        case h_3 =>
          cases step
          exact ⟨load_stop running Status.finished_ne_running, rfl⟩
        case h_4 fault _ =>
          cases step
          exact ⟨load_stop running (Status.failed_ne_running fault), rfl⟩

theorem load_settleWithin (operations : Nat) (a : Answering) :
    (a.settleWithin operations).2.load + operations ≤ a.load + (a.settleWithin operations).1 ∧
      (a.settleWithin operations = (operations, a) ∨
        (a.settleWithin operations).2.load < a.load) ∧
      (a.settleWithin operations).2.share = a.share := by
  obtain ⟨used, moved⟩ := settleWithin_lowers load (fun _ _ step => (load_step? step).1)
    (2 * a.stream.inbox.length + operations + 4) operations a
  have keeps (s next : Answering) (kept : s.share = a.share) (step : s.step? = some next) :
      next.share = a.share := (load_step? step).2.trans kept
  exact ⟨used, moved, settleWithin_keeps keeps _ operations rfl⟩

end Answering

end RoundTrip
