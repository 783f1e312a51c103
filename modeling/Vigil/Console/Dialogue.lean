import Vigil.Console.Command
import Vigil.Console.CommandLine
import Vigil.Log.Setup
import Vigil.Text.Case
import Vigil.Text.Line

/-!
# The console

With arguments, the console runs the one command they make up. Without, it reads lines: each line
is a command with its arguments, until `exit` or the end of the input. What a command raises is
logged and does not end the dialogue, unless it is what says that there is no more input. What the
console does itself is to set up the log, to talk and to see to it that the client is closed; what
it has done by others is a parameter, `Deeds`.
-/

namespace Vigil.Console

variable {σ : Type}

/-- What the console has done by others: to tell how the service is, to run the command of a word,
which tells whether the console is to end, and to close the client. -/
structure Deeds (σ : Type) where
  service : Act σ String
  execute : (word : String) → (args : List String) → Act σ Bool
  close : Act σ Unit

/-- Logs a message. -/
def log (level : Int) (message : LooseText) (traced : Bool := false) : Act σ Unit :=
  Act.log .console level message traced

/-- Runs what a line says, if it says anything, and tells whether the dialogue is to end. -/
def obey (execute : String → List String → Act σ Bool) (line : String) : Act σ Bool := do
  match CommandLine.split line with
  | [] => pure false
  | first :: args =>
    let word := Text.lowerString first
    log Level.debug s!"Received command: {word}, args: {Text.quotedList args}"
    execute word args

/-- Whether what is raised says that there is no more input. -/
def endsInput : Raised → Bool
  | .mishap (.raised label _) => label = "EOFError" || label = "KeyboardInterrupt"
  | _ => false

/-- Says that there is no more input. -/
def takeLeave : Act σ Unit := log Level.warning "\nExiting console due to KeyboardInterrupt."

/-- Asks for lines and runs them, up to the first that ends the dialogue. -/
def dialogue (execute : String → List String → Act σ Bool) : (lines : List String) → Act σ Unit
  | [] => do
    Act.alter (·.say "> ")
    takeLeave
  | line :: rest => do
    Act.alter (·.say "> ")
    match ← Act.attempt (obey execute line) with
    | .ok true => pure ()
    | .ok false => dialogue execute rest
    | .error raised =>
      if endsInput raised then takeLeave
      else
        log Level.error ("An unexpected error occurred in the console: " ++ raised.message) true
        dialogue execute rest

/-- Says what this is. -/
def welcome : Act σ Unit := do
  Act.print "--- ProcessGuard Management Console ---"
  Act.print "Type 'help' for a list of commands."

/-- Greets, and says how the service is. -/
def greet (d : Deeds σ) : Act σ Unit := do
  welcome
  let status ← d.service
  log Level.debug s!"Console startup - Service is currently {status}."
  Act.print s!"Service is currently {status}."

/-- The flag that turns showing everything on for one command. -/
def verboseFlag : String := "--verbose"

/-- Runs the command that arguments make up. -/
def runOnce (d : Deeds σ) (word : String) (args : List String) : Act σ Unit := do
  if args.contains verboseFlag then toggleVerbose
  discard (d.execute (Text.lowerString word) (args.erase verboseFlag))

/-- What the console does between start and end. -/
def session (d : Deeds σ) (argv : List String) (input : String) : Act σ Unit := do
  match argv with
  | word :: args => runOnce d word args
  | [] =>
    greet d
    dialogue d.execute (Text.lines input)

/-- Runs the console: sets up the log, does what is asked and closes the client, however this
ended. `farewell` says whether the console takes its leave. -/
def conduct (d : Deeds σ) (s : Settings) (argv : List String) (input : String) (farewell : Bool) :
    Act σ Unit := do
  s.setUpLog
  Act.ensure (session d argv input) d.close
  if farewell then Act.print "Exiting console application. See you next time!"

/-- How the service is, in words. -/
def serviceWord : Deed String := do
  if ← Client.isServiceInstalled then
    if ← Client.isServiceRunning then pure "running" else pure "stopped"
  else pure "not installed"

/-- What a client does for the console. -/
def deeds (s : Settings) : Deeds (Watch Client) := ⟨serviceWord, execute s, Client.close⟩

/-- Runs the console with a client. -/
def program (s : Settings) (argv : List String) (input : String) (farewell : Bool) : Deed Unit :=
  conduct (deeds s) s argv input farewell

end Vigil.Console
