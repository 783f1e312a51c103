import Vigil.Client.Items
import Vigil.Client.Service
import Vigil.Console.Age
import Vigil.Text.Column

/-!
# What the console prints

The outcome of an operation, the list of items, and the state of the service with what the
supervisor reports. Entries that had to be skipped are mentioned after those that are shown. What
the supervisor says may be torn, and then it cannot be printed.
-/

namespace Vigil.Console

open Text (padRight)

variable {σ : Type}

/-- Prints an error of the client. -/
def printError (e : Error) : Act σ Unit := Act.printText ("ERROR: " ++ e.message)

/-- Prints the outcome of an operation. -/
def report {α : Type} (result : Result α) (done : LooseText) : Act σ Unit := do
  match result with
  | .success _ skipped =>
    Act.printText done
    if let some fault := skipped then
      Act.print s!"  (some entries were skipped: {fault.message})"
  | .failure e => printError e

/-- Mentions the last entry that was skipped, if any was. -/
def mentionSkipped (skipped : Option ProtocolFault) : Act σ Unit := do
  if let some fault := skipped then
    Act.print s!"WARNING: some entries were skipped: {fault.message}"

/-- How an item that is watched or not is called. -/
def watchLabel (enabled : Bool) : String := if enabled then "enabled" else "paused"

/-- The line for an item. -/
def itemLine (i : Item) : LooseText :=
  let args : LooseText := if i.args.isEmpty then "" else " " ++ i.args
  "  - " ++ i.id.padRight 24 ++ " : " ++ i.name ++ " | " ++ i.exePath ++ args ++
    s!" | timeout {i.heartbeatTimeout}ms | {watchLabel i.enabled}"

/-- The line for the status of a process, at a time. -/
def statusLine (now : Float) (p : ProcessStatus) : Except Mishap LooseText := do
  let name := (p.name ++ " (" ++ p.id ++ ")").padRight 40
  let process := padRight 8 (if p.processId = 0 then "-" else toString p.processId)
  let alive := padRight 5 (if p.isAlive then "ALIVE" else "DEAD")
  let heartbeat := if p.isHeartbeatOk then "OK" else "MISSED"
  let age ← heartbeatAge now p.lastHeartbeat
  let rest := s!" : PID {process} | {alive} | Heartbeat: {heartbeat} ({age}) | " ++
    s!"Restarts: {p.restartCount} | {watchLabel p.enabled}"
  pure ("  - " ++ name ++ rest)

/-- Prints the items of a list, and what was skipped. -/
def showItems (items : List Item) (skipped : Option ProtocolFault) : Act σ Unit := do
  if items.isEmpty then Act.print "No monitor items registered."
  else
    Act.print s!"\n--- Monitor Items ({items.length}) ---"
    items.forM fun item => Act.printText (itemLine item)
    mentionSkipped skipped
    Act.print ""

/-- Prints what the supervisor reports, and what was skipped. -/
def showStatus (status : ServiceStatus) (skipped : Option ProtocolFault) : Act σ Unit := do
  Act.print s!"--- Supervisor Status ({status.totalItems} item(s)) ---"
  status.items.forM fun p => do
    Act.printText (← Act.orStumble (statusLine (← Act.world).now p))
  mentionSkipped skipped
  Act.print (String.ofList (List.replicate 26 '-') ++ "\n")

/-- The status a response brought. -/
def statusOf : Content → ServiceStatus
  | .status status => status
  | _ => {}

/-- Lists the registered items. -/
def listItems : Deed Unit := do
  match ← Client.listItems with
  | .failure e => printError e
  | .success content skipped => showItems content.entries skipped

/-- How the service is called that is installed or not, and runs or not. -/
def serviceLabel (installed running : Bool) : String :=
  if running then "RUNNING" else if installed then "STOPPED" else "NOT INSTALLED"

/-- Shows the state of the service and the status of all items. -/
def status (serviceName : String) : Deed Unit := do
  let installed ← Client.isServiceInstalled
  let running ← if installed then Client.isServiceRunning else pure false
  Act.print s!"\nService '{serviceName}': {serviceLabel installed running}"
  match ← Client.serviceStatus with
  | .failure e => Act.printText ("Supervisor unreachable: " ++ e.message ++ "\n")
  | .success content skipped => showStatus (statusOf content) skipped

/-- The lines of the help text. -/
def helpLines : List String := [
  "\nAvailable commands:",
  "  install <path>         - Register the supervisor executable as a Windows service.",
  "  uninstall              - Stop and remove the supervisor service.",
  "  start                  - Start the supervisor service.",
  "  stop                   - Stop the supervisor service.",
  "  setup <path>           - Install the service if needed and make sure it is running.",
  "  status                 - Show the service state and the status of every monitored item.",
  "  list                   - List the registered monitor items.",
  "  add <exe> <name> [--id ID] [--args ARGS] [--timeout MS]",
  "                         - Register an executable with the supervisor.",
  "  remove <id>            - Unregister a monitor item.",
  "  pause <id>             - Stop watching an item without removing it.",
  "  resume <id>            - Resume watching a paused item.",
  "  heartbeat <id>         - Send a single heartbeat for an item.",
  "  verbose                - Toggle detailed DEBUG log output in the console.",
  "  exit                   - Exit the management console.",
  ""]

/-- Prints the help text. -/
def help : Act σ Unit := helpLines.forM fun line => Act.print line

end Vigil.Console
