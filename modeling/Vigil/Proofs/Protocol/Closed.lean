import Vigil.Proofs.Protocol.Guarded

/-!
# Which replies are responses

Whether the bytes of a reply are a response is told by a few kinds of value: the flag `success`, the
message, and of the data what the request asks of them. Nothing that stands in an entry of a list or
of a status counts, and neither does anything in a rejection besides its message.

* `Request.isOk_decodeFields`: `accepts` decides which objects are responses.
* `Request.rejection_of_decode`: what a rejection holds.
* `Request.decode_closed`: every reply is a response or a fault of the protocol, and which of the
  two; no mishap gets out.
-/

namespace Vigil

/-- A response that is no success holds a message, and nothing else. -/
structure Response.Rejection (r : Response) : Prop where
  message : ∃ text, r.message = some text ∧ text ≠ ""
  content : r.content = .none
  skipped : r.skipped = []

/-! ## What is accepted -/

namespace Json

/-- Whether a flag may be read: it stands there, or nothing does. -/
def flagOrNone : Option Json → Bool
  | none | some (.bool _) => true
  | _ => false

/-- Whether a whole number may be read: an integer or a finite double stands there, or nothing
does. -/
def numberOrNone : Option Json → Bool
  | none | some (.int _) => true
  | some (.real x) => Number.isFinite x
  | _ => false

/-- Whether an array may be read: it stands there, or null or nothing does. -/
def arrayOrNone : Option Json → Bool
  | none | some .null | some (.array _) => true
  | _ => false

/-- Whether a text may be read: it stands there, or null or nothing does. -/
def textOrNone : Option Json → Bool
  | none | some .null | some (.text _) => true
  | _ => false

end Json

namespace Request

/-- Whether a request accepts the data of a response. -/
def acceptsData : Request → Json → Bool
  | .list, .null | .list, .array _ | .status, .null => true
  | .status, .object fields =>
    Json.arrayOrNone (Json.get? "items" fields) &&
      Json.flagOrNone (Json.get? "service_running" fields) &&
      Json.numberOrNone (Json.get? "total_items" fields)
  | .list, _ | .status, _ => false
  | _, _ => true

/-- Whether a request accepts the fields of a reply as a response. -/
def accepts (r : Request) (fields : List (LooseText × Json)) : Bool :=
  match Json.get? "success" fields with
  | some (.bool success) =>
    Json.textOrNone (Json.get? "message" fields) &&
      (!success || r.acceptsData ((Json.get? "data" fields).getD .null))
  | _ => false

end Request

/-! ## What is decoded -/

theorem Field.isOk_flag (fields : List (LooseText × Json)) (key : String) (default : Bool) :
    (Field.flag fields key default).isOk = Json.flagOrNone (Json.get? key fields) := by
  unfold Field.flag
  cases Json.get? key fields with
  | none => rfl
  | some value => cases value <;> rfl

theorem Field.isOk_number (fields : List (LooseText × Json)) (key : String) (default : Int) :
    (Field.number fields key default).isOk = Json.numberOrNone (Json.get? key fields) := by
  unfold Field.number
  cases Json.get? key fields with
  | none => rfl
  | some value =>
    cases value with
    | real x =>
      have whole := Number.truncate_isOk_iff x
      dsimp only [Json.numberOrNone]
      cases hn : Number.truncate x with
      | ok n => exact (whole.mp ⟨n, hn⟩).symm
      | error reason =>
        refine (Bool.eq_false_iff.mpr fun h => ?_).symm
        obtain ⟨n, h⟩ := whole.mpr h
        cases hn.symm.trans h
    | null | bool _ | int _ | text _ | array _ | object _ => rfl

theorem isOk_statusEntries (fields : List (LooseText × Json)) :
    (statusEntries fields).isOk = Json.arrayOrNone (Json.get? "items" fields) := by
  unfold statusEntries
  cases Json.get? "items" fields with
  | none => rfl
  | some value => cases value <;> rfl

theorem isOk_replyMessage (fields : List (LooseText × Json)) :
    (replyMessage fields).isOk = Json.textOrNone (Json.get? "message" fields) := by
  unfold replyMessage
  cases Json.get? "message" fields with
  | none => rfl
  | some value => cases value <;> rfl

/-- The entries of a status have no say in whether it is accepted. -/
theorem isOk_decodeStatus (fields : List (LooseText × Json)) :
    (decodeStatus (.object fields)).isOk = Request.acceptsData .status (.object fields) := by
  rw [Request.acceptsData, ← isOk_statusEntries, ← Field.isOk_flag fields _ false,
    ← Field.isOk_number fields _ 0, decodeStatus]
  cases statusEntries fields <;> cases Field.flag fields "service_running" <;>
    cases Field.number fields "total_items" <;> rfl

namespace Request

theorem isOk_decodeData (r : Request) (data : Json) :
    (r.decodeData data).isOk = r.acceptsData data := by
  cases r with
  | list => cases data <;> rfl
  | status =>
    cases data with
    | object fields => exact isOk_decodeStatus fields
    | null | bool _ | int _ | real _ | text _ | array _ => rfl
  | bare | add _ | update _ | remove _ | stop _ | start _ | heartbeat _ _ => rfl

/-- **A reply is a response exactly if it is accepted.** -/
theorem isOk_decodeFields (r : Request) (fields : List (LooseText × Json)) :
    (r.decodeFields fields).isOk = r.accepts fields := by
  unfold decodeFields accepts
  cases Json.get? "success" fields with
  | none => rfl
  | some value =>
    cases value with
    | bool success =>
      dsimp only
      rw [← isOk_replyMessage, ← isOk_decodeData]
      cases replyMessage fields with
      | error fault => rfl
      | ok message =>
        cases success with
        | false => rfl
        | true => cases r.decodeData ((Json.get? "data" fields).getD .null) <;> rfl
    | null | int _ | real _ | text _ | array _ | object _ => rfl

theorem rejection_of_decodeFields {r : Request} {fields : List (LooseText × Json)}
    {response : Response} (h : r.decodeFields fields = .ok response)
    (hs : response.success = false) : response.Rejection := by
  unfold decodeFields at h
  split at h
  · rename_i success _
    cases hm : replyMessage fields with
    | error fault => simp [hm, bind, Except.bind] at h
    | ok message =>
      cases success with
      | false =>
        simp only [hm, bind, Except.bind, Bool.false_eq_true, if_false, pure, Except.pure] at h
        cases h
        refine ⟨⟨_, rfl, ?_⟩, rfl, rfl⟩
        split
        · decide
        · assumption
      | true =>
        cases hd : r.decodeData ((Json.get? "data" fields).getD .null) with
        | error fault => simp [hm, hd, bind, Except.bind] at h
        | ok found =>
          simp only [hm, hd, bind, Except.bind, if_true, pure, Except.pure] at h
          cases h
          cases hs
  · cases h

/-- What is decoded is an object whose fields are. -/
theorem decode_eq_ok_iff (r : Request) (raw : Bytes) (response : Response) :
    r.decode raw = .ok response ↔
      ∃ fields, readDocument raw = .ok (.object fields) ∧ r.decodeFields fields = .ok response := by
  unfold decode
  cases readDocument raw with
  | error fault => simp [bind, Except.bind]
  | ok document =>
    cases document with
    | object fields => simp [bind, Except.bind, decodeReply]
    | null | bool _ | int _ | real _ | text _ | array _ => simp [bind, Except.bind, decodeReply]

/-- **A rejection has a message, and nothing else.** -/
theorem rejection_of_decode {r : Request} {raw : Bytes} {response : Response}
    (h : r.decode raw = .ok response) (hs : response.success = false) : response.Rejection := by
  obtain ⟨fields, -, h⟩ := (decode_eq_ok_iff r raw response).mp h
  exact rejection_of_decodeFields h hs

/-- **Decoding is closed.** Whatever the bytes, and whatever is raised on the way, the reply to a
request is decoded as a response if it is an object that the request accepts, and else is told as a
fault of the protocol. A response that is no success is a rejection. -/
theorem decode_closed (r : Request) (raw : Bytes) :
    (∃ fields response, readDocument raw = .ok (.object fields) ∧ r.accepts fields = true ∧
      Guarded.decode r raw = .ok response ∧ r.decode raw = .ok response ∧
      (response.success = false → response.Rejection)) ∨
    ∃ fault, (∀ fields, readDocument raw = .ok (.object fields) → r.accepts fields = false) ∧
      Guarded.decode r raw = .error (.fault fault) ∧ r.decode raw = .error fault := by
  rw [Guarded.decode_eq]
  cases h : r.decode raw with
  | ok response =>
    obtain ⟨fields, hraw, hfields⟩ := (decode_eq_ok_iff r raw response).mp h
    have accepted := r.isOk_decodeFields fields
    rw [hfields] at accepted
    exact .inl ⟨fields, response, hraw, accepted.symm, rfl, rfl, rejection_of_decode h⟩
  | error fault =>
    refine .inr ⟨fault, fun fields hraw => Bool.eq_false_iff.mpr fun accepted => ?_, rfl, rfl⟩
    rw [← isOk_decodeFields] at accepted
    cases hf : r.decodeFields fields with
    | error _ => simp [hf, Except.isOk, Except.toBool] at accepted
    | ok response => cases h.symm.trans ((decode_eq_ok_iff r raw response).mpr ⟨fields, hraw, hf⟩)

end Request

end Vigil
