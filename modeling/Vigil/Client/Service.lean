import Vigil.Client.Basic

/-!
# The service

The controller's operations as a client offers them: their failures become results. `quickSetup`
installs and starts the service as far as this is needed.
-/

namespace Vigil.Client

/-- Runs an operation of the controller. Whatever fails becomes the failure of the result. -/
def serviceCall {α : Type} (operation : Operation) (x : Act Controller α) : Deed (Result α) := do
  match ← Act.attempt (onController x) with
  | .ok a => pure (.success a none)
  | .error (.error e) =>
    log Level.error (operation.label ++ " failed: " ++ e.message)
    pure (.failure e)
  | .error (.mishap mishap) =>
    log Level.error s!"Unexpected error during {operation.label}: {mishap.message}" true
    pure (.failure (.service (.unexpected operation mishap)))

/-- Whether the service is installed. -/
def isServiceInstalled : Deed Bool := onController Controller.isInstalled

/-- Whether the service runs. -/
def isServiceRunning : Deed Bool := onController Controller.isRunning

/-- Installs the service. -/
def installService (path : String) : Deed (Result Unit) :=
  serviceCall .installService (Controller.install path)

/-- Removes the service. -/
def uninstallService : Deed (Result Unit) := serviceCall .uninstallService Controller.uninstall

/-- Starts the service. The value is the last state that was seen. -/
def startService : Deed (Result (Option ServiceState)) :=
  serviceCall .startService Controller.start

/-- Stops the service. The value is the last state that was seen. -/
def stopService : Deed (Result (Option ServiceState)) := serviceCall .stopService Controller.stop

/-- Starts the service unless it runs. -/
def startIfStopped : Deed (Result Unit) := do
  if ← isServiceRunning then pure (.success () none)
  else
    match ← startService with
    | .success .. => pure (.success () none)
    | .failure e => pure (.failure e)

/-- Installs the service if it is absent and starts it unless it runs. The first failure ends it. -/
def quickSetup (path : String) : Deed (Result Unit) := do
  if ← isServiceInstalled then startIfStopped
  else
    match ← installService path with
    | .success .. => startIfStopped
    | .failure e => pure (.failure e)

/-- Starts the service unless it runs; it has to be installed. -/
def ensureServiceRunning : Deed (Result Unit) := do
  if ← isServiceInstalled then startIfStopped
  else pure (.failure (.service .notInstalled))

end Vigil.Client
