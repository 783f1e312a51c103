import Vigil.Client.Connection

/-!
# Heartbeats

A heartbeat is a request with the time it is sent. If it is not accepted, whoever sent it, the
heartbeat callback is told.
-/

namespace Vigil.Client

/-- Calls the heartbeat callback, if there is one. -/
def reportFailure (id : String) : Deed Unit := do
  if let some callback := (← current).heartbeatCallback then
    Act.note (.heartbeatCallback id)
    alter fun c => { c with heartbeatCallback := some callback.tail }
    respond disconnect (some id) (callback.headD [])
      s!"Heartbeat-failed callback raised for '{id}': "

/-- The error of a heartbeat that was not accepted. -/
def heartbeatError : Error → Error
  | .refused refusal => .refused (.heartbeat refusal)
  | e => e

/-- Sends a heartbeat. -/
def sendHeartbeat (id : String) : Deed (Result Content) := do
  let millis ← Act.epochMillis
  match ← request (.heartbeat id millis) .heartbeat with
  | .success content skipped => pure (.success content skipped)
  | .failure e =>
    let e := heartbeatError e
    log Level.warning (s!"Heartbeat for '{id}' was not accepted: " ++ e.message)
    reportFailure id
    pure (.failure e)

/-- What a reporter does for one heartbeat. -/
def beat (id : String) : Deed Unit := discard (sendHeartbeat id)

/-- Starts a reporter, with the given interval or the client's own. -/
def startReporter (id : String) (interval : Option Float) : Deed Bool := do
  Watch.start beat id (interval.getD (← current).heartbeatInterval)

/-- Stops all reporters and closes the channel. -/
def close : Deed Unit := do
  Watch.stopAll
  disconnect

end Vigil.Client
