import Vigil.Json.Reader
import Vigil.Protocol.Request
import Vigil.Protocol.Status

/-!
# Responses

What the supervisor answers. A reply is a document with a flag `success`, perhaps a `message`, and
`data` that depends on the request. Entries of a list or of a status that cannot be read are
skipped, each with its own error; the others are kept. The reply to a request that only has to be
carried out has no data that is looked at.
-/

namespace Vigil

/-- What a successful response brings. -/
inductive Content where
  | none
  | items (items : List Item)
  | status (status : ServiceStatus)
  deriving Repr, DecidableEq

/-- A response. -/
structure Response where
  success : Bool
  message : Option LooseText := Option.none
  content : Content := .none
  skipped : List ProtocolFault := []

/-- The error of the last entry that was skipped. -/
def Response.lastSkipped (r : Response) : Option ProtocolFault := r.skipped.getLast?

/-- One entry of a reply: its record or its error. -/
def outcomes {α : Type} (read : Json → Except EntryFault α) (entries : List Json) :
    List (Except EntryFault α) :=
  entries.map read

/-- The records among the outcomes. -/
def kept {α : Type} (outcomes : List (Except EntryFault α)) : List α :=
  outcomes.filterMap (·.toOption)

/-- The errors among the outcomes. -/
def faults {α : Type} (outcomes : List (Except EntryFault α)) : List EntryFault :=
  outcomes.filterMap fun
    | .error fault => some fault
    | .ok _ => none

/-- The errors of skipped entries, as a response lists them. -/
def skips {α : Type} (what : EntryKind) (outcomes : List (Except EntryFault α)) :
    List ProtocolFault :=
  (faults outcomes).map (.skipped what)

/-- Decodes the data of a list. -/
def decodeList : Json → Except ProtocolFault (Content × List ProtocolFault)
  | .null => .ok (.items [], [])
  | .array entries =>
    let read := outcomes Item.ofJson entries
    .ok (.items (kept read), skips .item read)
  | data => .error (.listNotArray data.kind)

/-- The entries of a status. -/
def statusEntries (fields : List (LooseText × Json)) : Except ProtocolFault (List Json) :=
  match Json.get? "items" fields with
  | none | some .null => .ok []
  | some (.array entries) => .ok entries
  | some value => .error (.entriesNotArray value.kind)

/-- Decodes the data of a status. -/
def decodeStatus : Json → Except ProtocolFault (Content × List ProtocolFault)
  | .null => .ok (.status {}, [])
  | .object fields => do
    let entries ← statusEntries fields
    let read := outcomes ProcessStatus.ofJson entries
    let serviceRunning ← (Field.flag fields "service_running").mapError .field
    let totalItems ← (Field.number fields "total_items").mapError .field
    pure (.status { serviceRunning, totalItems, items := kept read }, skips .status read)
  | data => .error (.statusNotObject data.kind)

/-- Decodes the data of the response to a request. -/
def Request.decodeData (r : Request) (data : Json) :
    Except ProtocolFault (Content × List ProtocolFault) :=
  match r with
  | .list => decodeList data
  | .status => decodeStatus data
  | _ => .ok (.none, [])

/-- The message a rejection has if the supervisor gave none. -/
def unknownError : String := "Unknown error"

/-- The message of a reply. -/
def replyMessage (fields : List (LooseText × Json)) : Except ProtocolFault (Option LooseText) :=
  match Json.get? "message" fields with
  | none | some .null => .ok none
  | some (.text s) => .ok (some s)
  | some _ => .error .badMessage

/-- Decodes the fields of a reply to a request. -/
def Request.decodeFields (r : Request) (fields : List (LooseText × Json)) :
    Except ProtocolFault Response :=
  match Json.get? "success" fields with
  | some (.bool success) => do
    let message ← replyMessage fields
    if success then
      let (content, skipped) ← r.decodeData ((Json.get? "data" fields).getD .null)
      pure { success, message, content, skipped }
    else
      let text := message.getD ""
      pure { success, message := some (if text = "" then unknownError else text) }
  | _ => .error .noSuccess

/-- Decodes a reply to a request. -/
def Request.decodeReply (r : Request) : Json → Except ProtocolFault Response
  | .object fields => r.decodeFields fields
  | value => .error (.notObject value.kind)

/-- Reads a document from its bytes. -/
def readDocument (raw : Bytes) : Except ProtocolFault Json := do
  let document ← (Text.decodeUtf8 raw).mapError .notUtf8
  (Json.read document).mapError .notDocument

/-- Decodes the bytes of a response to a request. -/
def Request.decode (r : Request) (raw : Bytes) : Except ProtocolFault Response := do
  r.decodeReply (← readDocument raw)

/-- What is logged about the entries of a reply that are skipped: their places and errors. -/
def skipNotes {α : Type} (label : String) (outcomes : List (Except EntryFault α)) : List String :=
  outcomes.zipIdx.filterMap fun
    | (.error fault, index) => some s!"Skipping malformed {label} at index {index}: {fault.message}"
    | (.ok _, _) => none

/-- What is logged while the data of a response is decoded. -/
def Request.dataNotes (r : Request) (data : Json) : List String :=
  match r, data with
  | .list, .array entries => skipNotes "monitor item" (outcomes Item.ofJson entries)
  | .status, .object fields =>
    match statusEntries fields with
    | .ok entries => skipNotes "process status" (outcomes ProcessStatus.ofJson entries)
    | .error _ => []
  | _, _ => []

/-- What is logged while the bytes of a response are decoded. -/
def Request.notes (r : Request) (raw : Bytes) : List String :=
  match readDocument raw with
  | .ok (.object fields) =>
    match Json.get? "success" fields, replyMessage fields with
    | some (.bool true), .ok _ => r.dataNotes ((Json.get? "data" fields).getD .null)
    | _, _ => []
  | _ => []

end Vigil
