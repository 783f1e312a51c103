import Vigil.Channel.Pipe

/-!
# The session

One session holds at most one connection, and a connection carries one request and its reply: it
is closed right after, whatever came of it. The connection is given up before it is closed, so that
none is held whose close failed.
-/

namespace Vigil

/-- A session over a pipe: the greatest size of a reply, and the connection that is open. -/
structure Session where
  path : String
  bufferSize : Int := 65536
  connection : Option Connection := none

namespace Session

/-- Whether a connection is open. -/
def isOpen (s : Session) : Bool := s.connection.isSome

/-- Closes the connection if one is open. What the system reports about it is ignored. -/
def close : Act Session Unit := do
  match (← Act.own).connection with
  | none => pure ()
  | some connection =>
    Act.update fun s => { s with connection := none }
    Act.note (.close connection.number connection.line.closeFault)
    match connection.line.closeFault with
    | none => pure ()
    | some (.os fault) =>
      Act.log .session Level.debug
        s!"Ignoring error while closing supervisor pipe: {fault.message}"
    | some mishap => Act.stumble mishap

/-- **No connection is held after closing**, also if the close failed. -/
theorem after_close_own (s : Scene Session) :
    (Act.after close s).own = { s.own with connection := none } := by
  unfold close
  simp only [Act.after_bind, Act.outcome_own, Act.after_own]
  split
  · rename_i h
    simp [← h]
  · simp only [Act.after_bind, Act.outcome_update, Act.after_update, Act.outcome_note,
      Act.after_note]
    split <;> simp

/-- Opens a new connection in place of the one that was open. A busy pipe is tried again for
`timeout` seconds. -/
def connect (timeout : Float) : Act Session Unit := do
  close
  let w ← Act.world
  let deadline := w.mono + if 0.0 > timeout then 0.0 else timeout
  let connection ← Pipe.reach (← Act.own).path timeout deadline w.pipe
  Act.update fun s => { s with connection := some connection }
  Act.log .session Level.debug "Connected to supervisor pipe."

/-- What a failure of a write or of a read means. -/
def transferFault : Mishap → Raised
  | .os fault => .error (.channel (.inputOutput fault))
  | mishap => .mishap mishap

/-- Writes a payload. -/
def write (connection : Connection) (payload : Bytes) : Act Session Unit := do
  let line := connection.line
  match line.writeFault with
  | some mishap =>
    Act.note (.write connection.number payload (.error mishap))
    throw (transferFault mishap)
  | none =>
    Act.note (.write connection.number payload (.ok (payload.length - line.short)))
    if line.short ≠ 0 then Act.fail (.channel .writeIncomplete)

/-- Reads a reply of at most `limit` bytes. -/
def read (connection : Connection) (limit : Int) : Act Session Bytes := do
  let line := connection.line
  match line.readFault with
  | some mishap =>
    Act.note (.read connection.number limit (.error mishap))
    throw (transferFault mishap)
  | none =>
    let reply := line.reply.take limit.toNat
    Act.note (.read connection.number limit (.ok reply))
    pure reply

/-- Sends a payload over the open connection, gives its reply and closes the connection. One byte
more than the buffer holds is asked for, to tell a reply that is too long from one that fits. -/
def send (payload : Bytes) : Act Session Bytes := do
  let session ← Act.own
  match session.connection with
  | none => Act.fail (.channel .notConnected)
  | some connection =>
    let transfer : Act Session Bytes := do
      write connection payload
      read connection (session.bufferSize + 1)
    let reply ← Act.ensure transfer close
    if reply.isEmpty then Act.fail (.channel .nothingRead)
    else if session.bufferSize < reply.length then
      Act.fail (.protocol (.oversized session.bufferSize))
    else pure reply

/-- Sends a payload, over a new connection if none is open. -/
def exchange (payload : Bytes) (timeout : Float) : Act Session Bytes := do
  Act.note (.exchange payload)
  unless (← Act.own).isOpen do
    connect timeout
  send payload

/-- What may be asked of a session. -/
inductive Call where
  | connect (timeout : Float)
  | send (payload : Bytes)
  | exchange (payload : Bytes) (timeout : Float)
  | disconnect
  deriving Repr

/-- Does what is asked, and gives the reply if there is one. -/
def perform : Call → Act Session (Option Bytes)
  | .connect timeout => do
    connect timeout
    pure none
  | .send payload => some <$> send payload
  | .exchange payload timeout => some <$> exchange payload timeout
  | .disconnect => do
    close
    pure none

end Session

end Vigil
