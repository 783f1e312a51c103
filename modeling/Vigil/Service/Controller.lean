import Vigil.Number.Fixed
import Vigil.Service.Primitive

/-!
# The service of the supervisor

Installing, removing, starting and stopping the service, and asking for its state. An operation
opens the handles it needs and gives all of them back before it ends, however it ends. `start` and
`stop` then look at the state again and again, a bounded number of times.
-/

namespace Vigil

/-- How the service is reached, and how patiently its state is awaited. `ready` says that the
service manager was found once; it is not looked for again. -/
structure Controller where
  name : String := "ProcessGuardService"
  display : String := "Process Guard Service"
  attempts : Int := 60
  interval : Float := 0.5
  grace : Float := 1.0
  ready : Bool := false

namespace Controller

variable {α : Type}

/-- Ends with the service's error if an action failed with one; any other failure goes on. -/
def guarded (x : Act Controller α) : Act Controller (Except ServiceFault α) := do
  match ← Act.attempt x with
  | .ok a => pure (.ok a)
  | .error (.error (.service fault)) => pure (.error fault)
  | .error raised => throw raised

/-- Looks for the service manager; only one platform has it. -/
def prepare : Act Controller Unit := do
  unless (← Act.own).ready do
    match (← Act.world).platform with
    | .windows => Act.update fun c => { c with ready := true }
    | .other => Act.fail (.service .unsupportedPlatform)

/-- Runs an action with a handle, which is given back after it. -/
def holding (handle : Nat) (x : Nat → Act Controller α) : Act Controller α :=
  Act.ensure (x handle) (Service.closeHandle handle)

/-- Runs an action with the service manager. -/
def withManager (access : Nat) (x : Nat → Act Controller α) : Act Controller α := do
  prepare
  let manager ← Service.openManager access
  holding manager x

/-- Runs an action with the service. -/
def withService (access : Nat) (x : Nat → Act Controller α) : Act Controller α :=
  withManager Access.connect fun manager => do
    let service ← Service.openService manager (← Act.own).name access
    holding service x

/-- Logs a message. -/
def log (level : Int) (message : String) : Act Controller Unit := Act.log .controller level message

/-! ## Questions -/

/-- Whether the service can be opened. -/
def isInstalled : Act Controller Bool := do
  let name := (← Act.own).name
  match ← guarded (withService Access.queryStatus fun _ => pure ()) with
  | .ok () => pure true
  | .error fault =>
    if fault.kind ≠ .notFound then
      log Level.debug s!"Could not determine whether '{name}' is installed: {fault.message}"
    pure false

/-- The state of the service, if the service manager tells it. -/
def queryState : Act Controller (Option ServiceState) := do
  let name := (← Act.own).name
  match ← guarded (withService Access.queryStatus Service.query) with
  | .ok state => pure (some state)
  | .error fault =>
    log Level.debug s!"Could not query state of '{name}': {fault.message}"
    pure none

/-- Whether the service reports that it runs. -/
def isRunning : Act Controller Bool := return (← queryState) = some .running

/-! ## Operations -/

/-- Registers a program as the service. -/
def install (path : String) : Act Controller Unit := do
  if path = "" then Act.fail (.service .emptyPath)
  let c ← Act.own
  withManager Access.createService fun manager => do
    let service ← Service.create manager c.name c.display path
    Service.closeHandle service
  log Level.info s!"Service '{c.name}' installed for '{path}'."

/-- Stops the service, if it runs, before it is deleted. -/
def stopBefore (service : Nat) : Act Controller Unit := do
  match ← guarded (Service.query service) with
  | .error fault => log Level.debug s!"Could not query state before uninstall: {fault.message}"
  | .ok state =>
    if state = .running then
      if let .error fault ← guarded (Service.stop service) then
        log Level.warning s!"Stop request before uninstall failed: {fault.message}"
      Act.sleep (← Act.own).grace

/-- Deletes the service. If it runs it is told to stop first and given some time. -/
def uninstall : Act Controller Unit := do
  withService (Access.stop ||| Access.queryStatus ||| Access.delete) fun service => do
    stopBefore service
    Service.delete service
  log Level.info s!"Service '{(← Act.own).name}' uninstalled."

/-- Asks for the state until it is the target, `attempts` times at most, with a sleep after each
vain attempt. Gives the last state seen, and whether it is the target. -/
def poll (service : Nat) (target : ServiceState) : (attempts : Nat) → (seen : Option ServiceState) →
    Act Controller (Option ServiceState × Bool)
  | 0, seen => pure (seen, false)
  | attempts + 1, seen => do
    match ← guarded (Service.query service) with
    | .ok state =>
      if state = target then pure (some state, true)
      else
        Act.sleep (← Act.own).interval
        poll service target attempts (some state)
    | .error fault =>
      log Level.debug s!"State query failed while waiting for {target.label}: {fault.message}"
      Act.sleep (← Act.own).interval
      poll service target attempts seen

/-- The seconds that all attempts take. -/
def patience (c : Controller) : Except Mishap Float :=
  match Number.ofInt? c.attempts with
  | some attempts => .ok (attempts * c.interval)
  | none => .error .integerTooLarge

/-- Waits for the service to report a state, and gives the last state it reported. -/
def awaitState (service : Nat) (target : ServiceState) : Act Controller (Option ServiceState) := do
  let c ← Act.own
  let (seen, reached) ← poll service target c.attempts.toNat none
  unless reached do
    let seconds ← Act.orStumble c.patience
    log Level.warning (s!"Service '{c.name}' did not reach {target.label} within " ++
      s!"{Number.fixed 1 seconds}s (last state: {ServiceState.labelOr seen}).")
  pure seen

/-- Starts the service and waits for it to run. A service that runs already is no failure. -/
def start : Act Controller (Option ServiceState) := do
  let c ← Act.own
  let state ← withService (Access.start ||| Access.queryStatus) fun service => do
    if let .error fault ← guarded (Service.start service) then
      if fault.code ≠ alreadyRunningCode then Act.fail (.service fault)
      log Level.debug s!"Service '{c.name}' is already running."
    awaitState service .running
  log Level.info s!"Service '{c.name}' start requested (state: {ServiceState.labelOr state})."
  pure state

/-- Tells the service to stop and waits until it has. A service that does not run is no failure,
and nothing is awaited then. -/
def stop : Act Controller (Option ServiceState) := do
  let c ← Act.own
  let (state, requested) ← withService (Access.stop ||| Access.queryStatus) fun service => do
    match ← guarded (Service.stop service) with
    | .ok () => return (← awaitState service .stopped, true)
    | .error fault =>
      if fault.code ≠ notActiveCode then Act.fail (.service fault)
      log Level.debug s!"Service '{c.name}' is not running."
      return (some .stopped, false)
  if requested then
    log Level.info s!"Service '{c.name}' stop requested (state: {ServiceState.labelOr state})."
  pure state

/-- What may be asked of the controller. -/
inductive Call where
  | isInstalled
  | isRunning
  | queryState
  | install (path : String)
  | uninstall
  | start
  | stop
  deriving Repr, DecidableEq

/-- What the controller answers. -/
inductive Reply where
  | nothing
  | flag (yes : Bool)
  | state (state : Option ServiceState)
  deriving Repr, DecidableEq

/-- Does what is asked. -/
def perform : Call → Act Controller Reply
  | .isInstalled => Reply.flag <$> isInstalled
  | .isRunning => Reply.flag <$> isRunning
  | .queryState => Reply.state <$> queryState
  | .install path => do
    install path
    pure .nothing
  | .uninstall => do
    uninstall
    pure .nothing
  | .start => Reply.state <$> start
  | .stop => Reply.state <$> stop

end Controller

end Vigil
