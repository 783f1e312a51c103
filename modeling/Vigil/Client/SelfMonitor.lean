import Vigil.Client.Executable
import Vigil.Client.Heartbeat
import Vigil.Client.Items

/-!
# Watching itself

A client registers the process it runs in as an item, and remembers the item's id.
-/

namespace Vigil.Client

/-- The path of the executable; empty if it cannot be told. -/
def executable {σ : Type} : Act σ String := do
  match (← Act.world).exe with
  | .ok path => pure path
  | .error reason =>
    Act.log .selfMonitor Level.error s!"Could not resolve the current executable path: {reason}"
    pure ""

/-- The directory of the executable. -/
def executableDirectory {σ : Type} : Act σ String := do
  return String.ofList (Executable.directoryOf (← executable).toList)

/-- Remembers an id. -/
def setSelfId (id : String) : Deed Unit := alter fun c => { c with selfId := id }

/-- The id to register under: the given one, or one of the time. -/
def newSelfId (id : Option String) : Deed String := do
  match id with
  | some id => if id = "" then return s!"self-{← Act.epochMillis}" else pure id
  | none => return s!"self-{← Act.epochMillis}"

/-- Registers the process the client runs in. -/
def addSelf (id : Option String) (timeout : Int := selfHeartbeatTimeout) :
    Deed (Result Content) := do
  let exePath ← executable
  let id ← newSelfId id
  let item : Item :=
    { id, exePath, name := Executable.displayName exePath, heartbeatTimeout := timeout }
  let result ← addItem item
  if result.ok then
    setSelfId id
    log Level.info s!"Self monitor registered as '{id}'."
  pure result

/-- Makes a request about the process's own item. -/
def withSelf (x : String → Deed (Result Content)) : Deed (Result Content) := do
  let id := (← current).selfId
  if id = "" then pure (refuse .noSelfMonitor) else x id

/-- Removes the process's own item. -/
def removeSelf : Deed (Result Content) := withSelf removeItem

/-- Keeps the supervisor from watching the process. -/
def pauseSelf : Deed (Result Content) := withSelf stopItem

/-- Lets the supervisor watch the process again. -/
def resumeSelf : Deed (Result Content) := withSelf startItem

/-- Starts a reporter for the process's own item. -/
def startSelfReporter (interval : Option Float) : Deed Bool := do
  let id := (← current).selfId
  if id = "" then
    log Level.warning "Cannot start the self heartbeat: self monitor not set."
    pure false
  else startReporter id interval

/-- Stops the reporter for the process's own item. -/
def stopSelfReporter : Deed Bool := do
  let id := (← current).selfId
  if id = "" then pure false else Watch.stop id

end Vigil.Client
