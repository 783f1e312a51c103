import Vigil.Fault.Mishap
import Vigil.Json.Basic
import Vigil.Number.Fixed
import Vigil.Number.Shortest

/-!
# The client's errors

One constructor for each cause. The four families are what callers tell apart: the channel, the
protocol, requests that are refused, and the service manager. `Error.message` is the wording, which
is a string but for the words of the supervisor.
-/

namespace Vigil

/-! ## The channel -/

/-- Why the channel failed. -/
inductive ChannelFault where
  | stayedBusy (timeout : Float)
  | pipeMissing
  | cannotOpen (fault : OsFault)
  | notConnected
  | writeIncomplete
  | nothingRead
  | inputOutput (fault : OsFault)

/-- Whether the channel could not even be opened. -/
def ChannelFault.isUnavailable : ChannelFault → Bool
  | .stayedBusy _ | .pipeMissing | .cannotOpen _ => true
  | _ => false

/-- The fault in words. -/
def ChannelFault.message : ChannelFault → String
  | .stayedBusy timeout => s!"Supervisor pipe stayed busy for {Number.fixed 2 timeout}s"
  | .pipeMissing => "Failed to connect to service pipe: pipe not found"
  | .cannotOpen fault => s!"Failed to connect to service pipe: {fault.message}"
  | .notConnected => "Not connected"
  | .writeIncomplete => "Write failed"
  | .nothingRead => "Read failed"
  | .inputOutput fault => s!"Pipe I/O failed: {fault.message}"

/-! ## The protocol -/

/-- What a field must hold. -/
inductive Wanted where
  | text
  | flag
  | number
  deriving Repr, DecidableEq

/-- Why a field of a record cannot be read. -/
inductive FieldFault where
  | wrongKind (key : String) (wanted : Wanted) (got : Json.Kind)
  | notFinite (key : String) (x : Float)

/-- The two kinds of entry in a reply. -/
inductive EntryKind where
  | item
  | status
  deriving Repr, DecidableEq

/-- Why an entry of a reply cannot be read. -/
inductive EntryFault where
  | notObject (what : EntryKind) (got : Json.Kind)
  | field (fault : FieldFault)

/-- Why a reply cannot be read. -/
inductive ProtocolFault where
  | oversized (limit : Int)
  | notUtf8 (fault : Text.Utf8Fault)
  | notDocument (fault : Json.Fault)
  | notObject (got : Json.Kind)
  | noSuccess
  | badMessage
  | listNotArray (got : Json.Kind)
  | statusNotObject (got : Json.Kind)
  | entriesNotArray (got : Json.Kind)
  | field (fault : FieldFault)
  | entry (fault : EntryFault)
  | skipped (what : EntryKind) (fault : EntryFault)

/-- What a field must hold, in words. -/
def Wanted.label : Wanted → String
  | .text => "a string"
  | .flag => "a boolean"
  | .number => "a number"

/-- The fault in words. -/
def FieldFault.message : FieldFault → String
  | .wrongKind key wanted got => s!"Field '{key}' must be {wanted.label}, got {got.label}"
  | .notFinite key x => s!"Field '{key}' must be a finite number, got {Number.plain.render x}"

/-- What an entry is called. -/
def EntryKind.label : EntryKind → String
  | .item => "Monitor item"
  | .status => "Process status"

/-- What the error of a skipped entry starts with. -/
def EntryKind.skipLabel : EntryKind → String
  | .item => "Parse item error"
  | .status => "Parse process status error"

/-- The fault in words. -/
def EntryFault.message : EntryFault → String
  | .notObject what got => s!"{what.label} must be an object, got {got.label}"
  | .field fault => fault.message

/-- The fault in words. -/
def ProtocolFault.message : ProtocolFault → String
  | .oversized limit => s!"Response exceeds the {limit} byte buffer"
  | .notUtf8 fault => s!"Parse error: {fault.message}"
  | .notDocument fault => s!"Parse error: {fault.message}"
  | .notObject got => s!"Response must be an object, got {got.label}"
  | .noSuccess => "Response is missing a boolean 'success' field"
  | .badMessage => "Response 'message' must be a string"
  | .listNotArray got => s!"List data must be an array, got {got.label}"
  | .statusNotObject got => s!"Status data must be an object, got {got.label}"
  | .entriesNotArray got => s!"Status items must be an array, got {got.label}"
  | .field fault => fault.message
  | .entry fault => fault.message
  | .skipped what fault => s!"{what.skipLabel}: {fault.message}"

/-! ## Requests -/

/-- The operations that errors and log records name. -/
inductive Operation where
  | listItems
  | addItem
  | updateItem
  | removeItem
  | startItem
  | stopItem
  | serviceStatus
  | heartbeat
  | installService
  | uninstallService
  | startService
  | stopService
  deriving Repr, DecidableEq

/-- The name of an operation. -/
def Operation.label : Operation → String
  | .listItems => "GetAllMonitorItems"
  | .addItem => "AddMonitorItem"
  | .updateItem => "UpdateMonitorItem"
  | .removeItem => "RemoveMonitorItem"
  | .startItem => "StartMonitorItem"
  | .stopItem => "StopMonitorItem"
  | .serviceStatus => "GetServiceStatus"
  | .heartbeat => "SendHeartbeat"
  | .installService => "InstallService"
  | .uninstallService => "UninstallService"
  | .startService => "StartService"
  | .stopService => "StopService"

/-- Why a request was refused, here or by the supervisor. -/
inductive Refusal where
  | emptyId
  | emptyPath
  | emptyName
  | duplicatePath
  | cannotVerify (skipped : ProtocolFault)
  | bySupervisor (message : LooseText)
  | unexpected (operation : Operation) (mishap : Mishap)
  | heartbeat (inner : Refusal)
  | noSelfMonitor

/-- The refusal in words. -/
def Refusal.message : Refusal → LooseText
  | .emptyId => "Item ID cannot be empty"
  | .emptyPath => "Executable path cannot be empty"
  | .emptyName => "Item name cannot be empty"
  | .duplicatePath => "Executable path already monitored"
  | .cannotVerify skipped =>
    s!"Cannot verify that the executable path is not monitored yet: {skipped.message}"
  | .bySupervisor message => message
  | .unexpected operation mishap => s!"{operation.label} error: {mishap.message}"
  | .heartbeat inner => "Heartbeat failed: " ++ inner.message
  | .noSelfMonitor => "Self monitor not set"

/-! ## The service manager -/

/-- How failures of the service manager are told apart. -/
inductive ServiceErrorKind where
  | notFound
  | alreadyExists
  | accessDenied
  | timeout
  | unavailable
  | other
  deriving Repr, DecidableEq

/-- The name of a kind. -/
def ServiceErrorKind.label : ServiceErrorKind → String
  | .notFound => "not_found"
  | .alreadyExists => "already_exists"
  | .accessDenied => "access_denied"
  | .timeout => "timeout"
  | .unavailable => "unavailable"
  | .other => "other"

/-- Why an operation on the service failed. -/
inductive ServiceFault where
  /-- A call of the service manager failed, with its error code. -/
  | call (action : String) (code : Int)
  | emptyPath
  | unsupportedPlatform
  | notInstalled
  | unexpected (operation : Operation) (mishap : Mishap)

/-- The kind of an error code of the service manager. -/
def ServiceErrorKind.ofCode (code : Int) : ServiceErrorKind :=
  if code = 5 then .accessDenied
  else if code = 1053 then .timeout
  else if code = 1060 then .notFound
  else if code = 1073 then .alreadyExists
  else .other

/-- The kind of a fault. -/
def ServiceFault.kind : ServiceFault → ServiceErrorKind
  | .call _ code => .ofCode code
  | .emptyPath => .other
  | .unsupportedPlatform => .unavailable
  | .notInstalled => .notFound
  | .unexpected .. => .other

/-- The error code of a fault, zero if no call gave one. -/
def ServiceFault.code : ServiceFault → Int
  | .call _ code => code
  | _ => 0

/-- The fault in words. -/
def ServiceFault.message : ServiceFault → String
  | .call action code =>
    match ServiceErrorKind.ofCode code with
    | .notFound => "Service not found"
    | .alreadyExists => "Service already exists"
    | .accessDenied => s!"Access denied while trying to {action} (administrator rights required)"
    | _ => s!"Failed to {action}: error {code}"
  | .emptyPath => "Service executable path cannot be empty"
  | .unsupportedPlatform => "The Windows service manager is not available on this platform"
  | .notInstalled => "Service not found"
  | .unexpected operation mishap => s!"{operation.label} error: {mishap.message}"

/-! ## All of them -/

/-- An error of the client. -/
inductive Error where
  | channel (fault : ChannelFault)
  | protocol (fault : ProtocolFault)
  | refused (refusal : Refusal)
  | service (fault : ServiceFault)

/-- The error in words. -/
def Error.message : Error → LooseText
  | .channel fault => fault.message
  | .protocol fault => fault.message
  | .refused refusal => refusal.message
  | .service fault => fault.message

/-- What ends an action early: an error of the client or a mishap. -/
inductive Raised where
  | error (error : Error)
  | mishap (mishap : Mishap)

/-- What was raised, in words. -/
def Raised.message : Raised → LooseText
  | .error e => e.message
  | .mishap m => m.message

/-- The outcome of one operation of the client. A success may come with the error of an entry that
had to be skipped. -/
inductive Result (α : Type) where
  | success (value : α) (skipped : Option ProtocolFault)
  | failure (error : Error)

/-- Whether the operation succeeded. -/
def Result.ok {α : Type} : Result α → Bool
  | .success .. => true
  | .failure _ => false

/-- The description of the error; empty on success. -/
def Result.message {α : Type} : Result α → LooseText
  | .success .. => ""
  | .failure error => error.message

end Vigil
