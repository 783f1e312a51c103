import Vigil.Client.Basic

/-!
# Connecting

The client remembers whether the last use of the channel found the supervisor, and tells its
connection callback when this changes. Connecting and disconnecting tell it every time. A callback
may disconnect while it is called, and then the connection callback is called meanwhile, with what
it does the next time.
-/

namespace Vigil.Client

/-- A callback called with `id`, if with any, does one thing. `leave` is how it disconnects. -/
def react (leave : Deed Unit) (id : Option String) (action : CallbackAction) : Deed Unit := do
  Act.note (.reacts id action)
  match action with
  | .fail => Act.stumble (.raised "callback" "callback failed")
  | .stopArgument =>
    match id with
    | some id => discard (Watch.stop id)
    | none => pure ()
  | .stop id => discard (Watch.stop id)
  | .stopAll => Watch.stopAll
  | .disconnect => leave
  | .unset => alter fun c => { c with heartbeatCallback := none, connectionCallback := none }

/-- A callback called with `id`, if with any, does these things one after the other, up to one that
fails. The failure is logged and of no other consequence. -/
def respond (leave : Deed Unit) (id : Option String) (actions : List CallbackAction)
    (complaint : String) : Deed Unit := do
  if let .error raised ← Act.attempt (actions.forM (react leave id)) then
    log Level.error (complaint ++ raised.message) true

/-- Calls the connection callback, if there is one. -/
def callBack (leave : Deed Unit) (connected : Bool) : Deed Unit := do
  if let some callback := (← current).connectionCallback then
    Act.note (.connectionCallback connected)
    alter fun c => { c with connectionCallback := some callback.tail }
    respond leave none (callback.headD []) "Connection-changed callback raised: "

/-- Closes the channel and tells so, whatever was told before. -/
def hangUp (tell : Bool → Deed Unit) : Deed Unit := do
  onSession Session.close
  alter fun c => { c with connected := false }
  tell false

/-- Calls the connection callback, and again while it is called if it disconnects. Calls may be made
so deep within calls. -/
def callBackWithin : Nat → Bool → Deed Unit
  | 0 => callBack (pure ())
  | depth + 1 => callBack (hangUp (callBackWithin depth))

/-- Tells the connection callback, if there is one. Each call within a call uses up one of those
that it has left to answer, so they are no deeper than these are many. -/
def notify (connected : Bool) : Deed Unit := do
  let callback := (← current).connectionCallback.getD []
  callBackWithin callback.length connected

/-- Remembers whether the supervisor was found, and tells a change, or in any case if `always`. -/
def setConnected (connected : Bool) (always : Bool := false) : Deed Unit := do
  let changed := (← current).connected ≠ connected
  alter fun c => { c with connected }
  if changed || always then notify connected

/-- Closes the channel. -/
def disconnect : Deed Unit := hangUp notify

/-- Opens the channel. A busy pipe is tried again for the given time, or for the client's own. -/
def connect (timeout : Option Float) : Deed (Result Content) := do
  let timeout := timeout.getD (← current).connectTimeout
  match ← Act.attempt (onSession (Session.connect timeout)) with
  | .ok () =>
    setConnected true true
    pure (.success .none none)
  | .error (.error (.channel fault)) =>
    log Level.debug s!"Connect failed: {fault.message}"
    setConnected false true
    pure (.failure (.channel fault))
  | .error raised => throw raised

/-- Encodes a request and exchanges it for the bytes of a reply. -/
def exchange (r : Request) : Deed Bytes := do
  let payload ← Act.orStumble r.encode
  onSession (Session.exchange payload (← current).connectTimeout)

/-- Decodes the reply to a request. -/
def interpret (r : Request) (operation : Operation) (raw : Bytes) : Deed (Result Content) := do
  (r.notes raw).forM fun message => Act.log .codec Level.warning message
  match r.decode raw with
  | .error fault =>
    log Level.warning
      s!"{operation.label} returned an undecodable response: {fault.message}"
    pure (.failure (.protocol fault))
  | .ok response =>
    if response.success then pure (.success response.content response.lastSkipped)
    else pure (.failure (.refused (.bySupervisor (response.message.getD unknownError))))

/-- Makes a request. Whatever fails on the way becomes the failure of the result. -/
def request (r : Request) (operation : Operation) : Deed (Result Content) := do
  match ← Act.attempt (exchange r) with
  | .ok raw =>
    setConnected true
    interpret r operation raw
  | .error (.error (.channel fault)) =>
    log Level.debug s!"{operation.label} failed on the channel: {fault.message}"
    setConnected false
    pure (.failure (.channel fault))
  | .error (.error e) =>
    setConnected true
    log Level.debug (operation.label ++ " failed: " ++ e.message)
    pure (.failure e)
  | .error (.mishap mishap) =>
    setConnected false
    log Level.error s!"Unexpected error during {operation.label}: {mishap.message}" true
    pure (.failure (.refused (.unexpected operation mishap)))

end Vigil.Client
