import Vigil.Service.State
import Vigil.World.Act

/-!
# The calls of the service manager

Each call either does its work or fails with an error code; the failure becomes an error of the
client that names what was tried. The rights that a handle is opened with are bits of a mask.
-/

namespace Vigil

/-! ## Rights -/

namespace Access

/-- The right to open services. -/
def connect : Nat := 0x0001

/-- The right to create services. -/
def createService : Nat := 0x0002

/-- The right to ask a service for its state. -/
def queryStatus : Nat := 0x0004

/-- The right to start a service. -/
def start : Nat := 0x0010

/-- The right to stop a service. -/
def stop : Nat := 0x0020

/-- The right to delete a service. -/
def delete : Nat := 0x10000

end Access

/-- The code that says that a service runs already. -/
def alreadyRunningCode : Int := 1056

/-- The code that says that a service does not run. -/
def notActiveCode : Int := 1062

/-- The next answer of the service manager to a call, and the world after it. -/
def World.answer (w : World) (p : Primitive) : Answer × World :=
  let (answer, manager) := w.manager.next p
  (answer, { w with manager })

/-- The world with one more handle given out. -/
def World.giveHandle (w : World) : Nat × World :=
  let number := w.manager.given + 1
  (number, { w with manager := { w.manager with given := number } })

namespace Service

variable {σ : Type}

/-- Asks for the next answer to a call. -/
def ask (p : Primitive) : Act σ Answer := fun s =>
  let (answer, world) := s.world.answer p
  .ok answer { s with world }

/-- Gives out a handle. -/
def give : Act σ Nat := fun s =>
  let (number, world) := s.world.giveHandle
  .ok number { s with world }

/-- Makes a call that opens a handle. -/
def opening (p : Primitive) (event : Option Nat → Event) (action : String) : Act σ Nat := do
  match ← ask p with
  | .failed code =>
    Act.note (event none)
    Act.fail (.service (.call action code))
  | _ =>
    let handle ← give
    Act.note (event (some handle))
    pure handle

/-- Makes a call that does something. -/
def doing (p : Primitive) (event : Bool → Event) (action : String) : Act σ Unit := do
  match ← ask p with
  | .failed code =>
    Act.note (event false)
    Act.fail (.service (.call action code))
  | _ => Act.note (event true)

/-- Opens the service manager. -/
def openManager (access : Nat) : Act σ Nat :=
  opening .openManager (.openManager access) "open the service control manager"

/-- Opens a service. -/
def openService (manager : Nat) (name : String) (access : Nat) : Act σ Nat :=
  opening .openService (.openService manager name access) s!"open service '{name}'"

/-- Registers a program as a service that starts with the system. -/
def create (manager : Nat) (name display path : String) : Act σ Nat :=
  opening .createService (.createService manager name display path) "create service"

/-- Deletes a service. -/
def delete (service : Nat) : Act σ Unit :=
  doing .deleteService (.deleteService service) "delete service"

/-- Starts a service. -/
def start (service : Nat) : Act σ Unit :=
  doing .startService (.startService service) "start service"

/-- Tells a service to stop. -/
def stop (service : Nat) : Act σ Unit :=
  doing .controlService (.controlService service) "stop service"

/-- Reads the state that a service reports. -/
def readState (service : Nat) : Act σ ServiceState := do
  let value := (← Act.world).manager.state
  Act.note (.queryStatus service (some value))
  match ServiceState.ofNumber? value with
  | some state => pure state
  | none => Act.stumble (.unknownState value)

/-- Asks a service for its state. -/
def query (service : Nat) : Act σ ServiceState := do
  match ← ask .queryStatus with
  | .failed code =>
    Act.note (.queryStatus service none)
    Act.fail (.service (.call "query service status" code))
  | answer =>
    if let .state value := answer then
      Act.alter fun w => { w with manager := { w.manager with state := value } }
    readState service

/-- Gives a handle back. A failure is of no consequence. -/
def closeHandle (handle : Nat) : Act σ Unit := do
  match ← ask .closeHandle with
  | .failed code =>
    Act.note (.closeHandle handle false)
    Act.log .manager Level.debug s!"CloseServiceHandle failed with error {code}"
  | _ => Act.note (.closeHandle handle true)

end Service

end Vigil
