import Vigil.Protocol.Item

/-!
# Status

What the supervisor reports: the state of each item's process and of itself.
-/

namespace Vigil

/-- What the supervisor reports about one item. -/
structure ProcessStatus where
  id : LooseText
  name : LooseText := ""
  exePath : LooseText := ""
  enabled : Bool := false
  processId : Int := 0
  lastHeartbeat : Int := 0
  heartbeatTimeout : Int := defaultHeartbeatTimeout
  restartCount : Int := 0
  isAlive : Bool := false
  isHeartbeatOk : Bool := false
  deriving Repr, DecidableEq

/-- Reads the fields of a record. -/
def ProcessStatus.ofFields (record : List (LooseText × Json)) :
    Except FieldFault ProcessStatus := do
  let id ← Field.text record "id"
  let name ← Field.text record "name"
  let exePath ← Field.text record "exe_path"
  let enabled ← Field.flag record "enabled"
  let processId ← Field.number record "process_id" 0 true
  let lastHeartbeat ← Field.number record "last_heartbeat_ms"
  let heartbeatTimeout ← Field.number record "heartbeat_timeout_ms" defaultHeartbeatTimeout
  let restartCount ← Field.number record "restart_count"
  let isAlive ← Field.flag record "is_alive"
  let isHeartbeatOk ← Field.flag record "is_heartbeat_ok"
  pure { id, name, exePath, enabled, processId, lastHeartbeat, heartbeatTimeout, restartCount
         isAlive, isHeartbeatOk }

/-- Reads the status of one process. -/
def ProcessStatus.ofJson : Json → Except EntryFault ProcessStatus
  | .object record => (ofFields record).mapError .field
  | value => .error (.notObject .status value.kind)

/-- What the supervisor reports about itself and all items. -/
structure ServiceStatus where
  serviceRunning : Bool := false
  totalItems : Int := 0
  items : List ProcessStatus := []
  deriving Repr, DecidableEq

end Vigil
