import Vigil.Client.Heartbeat
import Vigil.Console.AddArgs
import Vigil.Console.Report

/-!
# Commands

The words of the console and what they do. `execute` runs one command, whatever its word and its
arguments are, and tells whether the console is to end: only `exit` does that.
-/

namespace Vigil.Console

variable {σ : Type}

/-- A command of the console. -/
inductive Command where
  | uninstall
  | start
  | stop
  | status
  | list
  | add
  | verbose
  | help
  | exit
  | remove
  | pause
  | resume
  | heartbeat
  | install
  | setup
  deriving Repr, DecidableEq

namespace Command

/-- All commands. -/
def all : List Command :=
  [.uninstall, .start, .stop, .status, .list, .add, .verbose, .help, .exit, .remove, .pause,
    .resume, .heartbeat, .install, .setup]

/-- The word of a command. -/
def word : Command → String
  | .uninstall => "uninstall"
  | .start => "start"
  | .stop => "stop"
  | .status => "status"
  | .list => "list"
  | .add => "add"
  | .verbose => "verbose"
  | .help => "help"
  | .exit => "exit"
  | .remove => "remove"
  | .pause => "pause"
  | .resume => "resume"
  | .heartbeat => "heartbeat"
  | .install => "install"
  | .setup => "setup"

/-- The command of a word. -/
def ofWord? (word : String) : Option Command := all.find? fun c => c.word = word

end Command

/-- Runs an action on the first argument; without one, the usage is printed. -/
def withArgument (command : Command) (name : String) (args : List String)
    (x : String → Deed Unit) : Deed Unit := do
  match args with
  | arg :: _ => x arg
  | [] => Act.print s!"Usage: {command.word} <{name}>"

/-- Runs an operation on the item whose id is the first argument. -/
def withItem (command : Command) (done : String) (args : List String)
    (x : String → Deed (Result Content)) : Deed Unit :=
  withArgument command "id" args fun id => do
    report (← x id) s!"Monitor item '{id}' {done}."

/-- Makes a new item of arguments, or prints why there is none. -/
def newItem? (s : Settings) (args : List String) : Act σ (Option Item) := do
  match AddArgs.parse s.itemTimeout args with
  | .error refusal =>
    Act.print refusal.message
    pure none
  | .ok (exePath, name, options) =>
    let clock := (← Act.world).epochMillis
    let item ← Act.orStumble ((Item.create exePath name options clock).mapError .notWhole)
    pure (some item)

/-- Registers the item that arguments ask for. -/
def addItem (s : Settings) (args : List String) : Deed Unit := do
  if let some item ← newItem? s args then
    report (← Client.addItem item) ("Monitor item '" ++ item.id ++ "' added.")

/-- Turns showing everything on or off. -/
def toggleVerbose : Act σ Unit := do
  Act.alter fun w => { w with logging := w.logging.toggle }
  let logging := (← Act.world).logging
  if logging.hasConsole then
    let label := if logging.verbose then "ON" else "OFF"
    Act.print s!"Verbose console logging is now {label}."
    Act.log .display Level.debug
      "Debug logging test: This message should only appear when verbose is ON."
  else Act.print "Could not find console handler to modify level."

/-- Runs a command. -/
def run (s : Settings) (args : List String) : Command → Deed Unit
  | .uninstall => do report (← Client.uninstallService) "Service uninstalled."
  | .start => do report (← Client.startService) "Service started."
  | .stop => do report (← Client.stopService) "Service stopped."
  | .status => status s.serviceName
  | .list => listItems
  | .add => addItem s args
  | .verbose => toggleVerbose
  | .help => help
  | .exit => pure ()
  | .remove => withItem .remove "removed" args Client.removeItem
  | .pause => withItem .pause "paused" args Client.stopItem
  | .resume => withItem .resume "resumed" args Client.startItem
  | .heartbeat => withItem .heartbeat "heartbeat sent" args Client.sendHeartbeat
  | .install => withArgument .install "path" args fun path => do
    report (← Client.installService path) s!"Service installed for '{path}'."
  | .setup => withArgument .setup "path" args fun path => do
    report (← Client.quickSetup path) "Service is installed and running."

/-- Runs the command of a word, and tells whether the console is to end. -/
def execute (s : Settings) (word : String) (args : List String) : Deed Bool := do
  Act.log .commands Level.debug s!"Executing command: {word}, args: {Text.quotedList args}"
  match Command.ofWord? word with
  | some command =>
    run s args command
    pure (command = .exit)
  | none =>
    Act.log .commands Level.info
      s!"Unknown command: '{word}'. Type 'help' for a list of commands."
    pure false

end Vigil.Console
