import Vigil.Fault.Mishap
import Vigil.Protocol.Response

/-!
# Decoding guard by guard

`Request.decode` ends with a response or with a fault of the protocol, and cannot say anything else.
Here the same reply is decoded step by step in a way that could: every step ends early with a fault
that it tells of or with whatever mishap its parts have, and only the guards that stand in the way
turn the one into the other or keep it from arising.

* bytes that are no UTF-8 and texts that are no document are mishaps, which the guard around the
  reader of documents expects;
* a double without a whole number is a mishap, which nothing expects, behind a guard that looks for
  it first;
* a fault of an entry is noted and the next one is read, but a mishap of an entry ends it all.

`Guarded.decode_eq` says that the guards are enough: no mishap gets out.
-/

namespace Vigil

/-- What ends a step early: a fault that the step tells of, or a mishap. -/
inductive Exit (ε : Type) where
  | fault (fault : ε)
  | mishap (mishap : Mishap)

namespace Guarded

variable {α β ε ε' : Type}

/-! ## Steps -/

/-- A step that has no mishaps. -/
def told (x : Except ε α) : Except (Exit ε) α := x.mapError .fault

/-- A step whose faults are part of other faults. -/
def within (f : ε → ε') (x : Except (Exit ε) α) : Except (Exit ε') α :=
  x.mapError fun
    | .fault e => .fault (f e)
    | .mishap m => .mishap m

@[simp] theorem told_ok (a : α) : told (.ok a : Except ε α) = .ok a := rfl

@[simp] theorem told_error (e : ε) : told (.error e : Except ε α) = .error (.fault e) := rfl

@[simp] theorem told_pure (a : α) : told (pure a : Except ε α) = pure a := rfl

@[simp] theorem told_bind (x : Except ε α) (f : α → Except ε β) :
    told (x >>= f) = told x >>= fun a => told (f a) := by
  cases x <;> rfl

@[simp] theorem within_told (f : ε → ε') (x : Except ε α) :
    within f (told x) = told (x.mapError f) := by
  cases x <;> rfl

/-! ## Records -/

/-- Reads a whole number. The whole number of a double is taken where its guard let it pass. -/
def number (fields : List (LooseText × Json)) (key : String) (default : Int := 0)
    (nullable : Bool := false) : Except (Exit FieldFault) Int :=
  match Json.get? key fields with
  | none => .ok default
  | some (.int n) => .ok n
  | some (.real x) =>
    if Number.isFinite x then (Number.truncate x).mapError fun reason => .mishap (.notWhole reason)
    else .error (.fault (.notFinite key x))
  | some .null =>
    if nullable then .ok default else .error (.fault (.wrongKind key .number .null))
  | some value => .error (.fault (.wrongKind key .number value.kind))

/-- Reads an item. -/
def item : Json → Except (Exit EntryFault) Item
  | .object record => within .field do
    let id ← told (Field.text record "id")
    let exePath ← told (Field.text record "exe_path")
    let name ← told (Field.text record "name")
    let args ← told (Field.text record "args" "" true)
    let minimize ← told (Field.flag record "minimize")
    let noWindow ← told (Field.flag record "no_window")
    let enabled ← told (Field.flag record "enabled")
    let heartbeatTimeout ← number record "heartbeat_timeout_ms" defaultHeartbeatTimeout
    pure { id, exePath, name, args, minimize, noWindow, enabled, heartbeatTimeout }
  | value => .error (.fault (.notObject .item value.kind))

/-- Reads the status of one process. -/
def status : Json → Except (Exit EntryFault) ProcessStatus
  | .object record => within .field do
    let id ← told (Field.text record "id")
    let name ← told (Field.text record "name")
    let exePath ← told (Field.text record "exe_path")
    let enabled ← told (Field.flag record "enabled")
    let processId ← number record "process_id" 0 true
    let lastHeartbeat ← number record "last_heartbeat_ms"
    let heartbeatTimeout ← number record "heartbeat_timeout_ms" defaultHeartbeatTimeout
    let restartCount ← number record "restart_count"
    let isAlive ← told (Field.flag record "is_alive")
    let isHeartbeatOk ← told (Field.flag record "is_heartbeat_ok")
    pure { id, name, exePath, enabled, processId, lastHeartbeat, heartbeatTimeout, restartCount
           isAlive, isHeartbeatOk }
  | value => .error (.fault (.notObject .status value.kind))

/-- Reads entries one after the other, and notes the faults of those that have one. -/
def entries (read : Json → Except (Exit EntryFault) α) (what : EntryKind) :
    List Json → Except (Exit ProtocolFault) (List α × List ProtocolFault)
  | [] => .ok ([], [])
  | record :: rest =>
    match read record with
    | .ok a => do
      let (records, faults) ← entries read what rest
      pure (a :: records, faults)
    | .error (.fault fault) => do
      let (records, faults) ← entries read what rest
      pure (records, .skipped what fault :: faults)
    | .error (.mishap mishap) => .error (.mishap mishap)

/-! ## Replies -/

/-- The fault that a mishap of the reader of documents is told as, if it is one of those expected
there. -/
def parseFault? : Mishap → Option ProtocolFault
  | .notUtf8 fault => some (.notUtf8 fault)
  | .document fault => some (.notDocument fault)
  | _ => none

/-- Reads a document from its bytes. -/
def document (raw : Bytes) : Except (Exit ProtocolFault) Json :=
  let parsed : Except Mishap Json := do
    let text ← (Text.decodeUtf8 raw).mapError .notUtf8
    (Json.read text).mapError .document
  match parsed with
  | .ok value => .ok value
  | .error mishap =>
    match parseFault? mishap with
    | some fault => .error (.fault fault)
    | none => .error (.mishap mishap)

/-- Decodes the data of a response. -/
def data (r : Request) (value : Json) :
    Except (Exit ProtocolFault) (Content × List ProtocolFault) :=
  match r, value with
  | .list, .null => .ok (.items [], [])
  | .list, .array records => do
    let (items, skipped) ← entries item .item records
    pure (.items items, skipped)
  | .list, value => .error (.fault (.listNotArray value.kind))
  | .status, .null => .ok (.status {}, [])
  | .status, .object fields => do
    let records ← told (statusEntries fields)
    let (items, skipped) ← entries status .status records
    let serviceRunning ← told ((Field.flag fields "service_running").mapError .field)
    let totalItems ← within .field (number fields "total_items")
    pure (.status { serviceRunning, totalItems, items }, skipped)
  | .status, value => .error (.fault (.statusNotObject value.kind))
  | _, _ => .ok (.none, [])

/-- Decodes the fields of a reply to a request. -/
def fields (r : Request) (fields : List (LooseText × Json)) :
    Except (Exit ProtocolFault) Response :=
  match Json.get? "success" fields with
  | some (.bool success) => do
    let message ← told (replyMessage fields)
    if success then
      let (content, skipped) ← data r ((Json.get? "data" fields).getD .null)
      pure { success, message, content, skipped }
    else
      let text := message.getD ""
      pure { success, message := some (if text = "" then unknownError else text) }
  | _ => .error (.fault .noSuccess)

/-- Decodes the bytes of a response to a request. -/
def decode (r : Request) (raw : Bytes) : Except (Exit ProtocolFault) Response := do
  match ← document raw with
  | .object members => fields r members
  | value => .error (.fault (.notObject value.kind))

/-! ## The guards are enough -/

/-- Behind its guard, a double always has a whole number. -/
theorem number_eq (fields : List (LooseText × Json)) (key : String) (default : Int)
    (nullable : Bool) :
    number fields key default nullable = told (Field.number fields key default nullable) := by
  unfold number Field.number
  cases h : Json.get? key fields with
  | none => rfl
  | some value =>
    cases value with
    | null => cases nullable <;> rfl
    | real x =>
      dsimp only
      by_cases hx : Number.isFinite x = true
      · obtain ⟨n, hn⟩ := (Number.truncate_isOk_iff x).mpr hx
        rw [if_pos hx, hn]
        rfl
      · cases hn : Number.truncate x with
        | ok n => exact absurd ((Number.truncate_isOk_iff x).mp ⟨n, hn⟩) hx
        | error reason =>
          rw [if_neg hx]
          rfl
    | bool _ | int _ | text _ | array _ | object _ => rfl

theorem item_eq (value : Json) : item value = told (Item.ofJson value) := by
  cases value with
  | object record =>
    simp only [item, Item.ofJson, Item.ofFields, number_eq, ← told_bind, ← told_pure, within_told]
  | null | bool _ | int _ | real _ | text _ | array _ => rfl

theorem status_eq (value : Json) : status value = told (ProcessStatus.ofJson value) := by
  cases value with
  | object record =>
    simp only [status, ProcessStatus.ofJson, ProcessStatus.ofFields, number_eq, ← told_bind,
      ← told_pure, within_told]
  | null | bool _ | int _ | real _ | text _ | array _ => rfl

/-- Entries without mishaps are all read: each is kept or skipped. -/
theorem entries_eq {read : Json → Except (Exit EntryFault) α} {plain : Json → Except EntryFault α}
    (h : ∀ value, read value = told (plain value)) (what : EntryKind) (records : List Json) :
    entries read what records =
      .ok (kept (outcomes plain records), skips what (outcomes plain records)) := by
  induction records with
  | nil => rfl
  | cons record rest ih =>
    have first : outcomes plain (record :: rest) = plain record :: outcomes plain rest := rfl
    rw [entries, h record, ih, first]
    cases plain record with
    | ok a => rfl
    | error fault => rfl

theorem document_eq (raw : Bytes) : document raw = told (readDocument raw) := by
  unfold document readDocument
  cases Text.decodeUtf8 raw with
  | error fault => rfl
  | ok text =>
    have decoded : (Except.ok text : Except Text.Utf8Fault (List Char)).mapError Mishap.notUtf8 =
        .ok text := rfl
    show _ = told ((Json.read text).mapError _)
    cases hv : Json.read text with
    | error fault =>
      simp only [bind, Except.bind, decoded, hv]
      rfl
    | ok value =>
      simp only [bind, Except.bind, decoded, hv]
      rfl

theorem data_eq (r : Request) (value : Json) : data r value = told (r.decodeData value) := by
  cases r with
  | list =>
    cases value with
    | array records =>
      rw [data, entries_eq item_eq]
      rfl
    | null | bool _ | int _ | real _ | text _ | object _ => rfl
  | status =>
    cases value with
    | object fields =>
      simp only [data, entries_eq status_eq, number_eq, within_told]
      show _ = told (decodeStatus (.object fields))
      unfold decodeStatus
      simp only [told_bind, told_pure]
      rfl
    | null | bool _ | int _ | real _ | text _ | array _ => rfl
  | bare | add _ | update _ | remove _ | stop _ | start _ | heartbeat _ _ => rfl

theorem fields_eq (r : Request) (members : List (LooseText × Json)) :
    fields r members = told (r.decodeFields members) := by
  unfold fields Request.decodeFields
  cases Json.get? "success" members with
  | none => rfl
  | some value =>
    cases value with
    | bool success =>
      dsimp only
      rw [told_bind]
      congr 1
      funext message
      cases success with
      | false => rfl
      | true =>
        simp only [if_true, told_bind, data_eq, told_pure]
    | null | int _ | real _ | text _ | array _ | object _ => rfl

/-- **The guards are enough**: decoded guard by guard, with all that may go wrong, a reply comes to
what it comes to without. -/
theorem decode_eq (r : Request) (raw : Bytes) : decode r raw = told (r.decode raw) := by
  rw [decode, Request.decode, document_eq, told_bind]
  congr 1
  funext value
  cases value with
  | object members => exact fields_eq r members
  | null | bool _ | int _ | real _ | text _ | array _ => rfl

end Guarded

end Vigil
