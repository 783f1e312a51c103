import Vigil.Console.Dialogue
import Vigil.Settings.Environment

/-!
# The program

The console as a program. It takes its settings from the environment and its commands from its
arguments or from its input, and prints what the console prints. There is neither a pipe nor a
service manager where it runs, and its log lines tell the time since the machine was started.
-/

namespace Vigil.Program

/-- The variables that settings are read from. -/
def variableNames : List String :=
  ["PROCGUARD_SERVICE_NAME", "PROCGUARD_PIPE_NAME", "PROCGUARD_CONNECT_TIMEOUT",
    "PROCGUARD_HEARTBEAT_INTERVAL", "PROCGUARD_LOG_LEVEL"]

/-- The environment the program runs in. -/
def environment : IO Environment :=
  variableNames.filterMapM fun name => do
    return (← IO.getEnv name).map fun value => (name, value)

/-- All of the input. -/
def wholeInput : IO String := do
  let input ← IO.getStdin
  let mut text := ""
  repeat
    let line ← input.getLine
    if line.isEmpty then break
    text := text ++ line
  return text

/-- All that was printed. -/
def printed (w : World) : String :=
  String.join (w.journal.reverse.filterMap fun
    | .print text => some text
    | _ => none)

/-- Runs the console and gives the exit code. -/
def run (argv : List String) : IO UInt32 := do
  match (← environment).settings with
  | .error mishap =>
    IO.eprintln mishap.message
    pure 1
  | .ok settings =>
    let input ← if argv.isEmpty then wholeInput else pure ""
    let now := Float.ofNat (← IO.monoMsNow) / 1000
    let world : World := { now, platform := .other }
    match Console.program settings argv input true ⟨world, { host := .create settings {} }⟩ with
    | .ok () s =>
      IO.print (printed s.world)
      pure 0
    | .error raised s =>
      IO.print (printed s.world)
      IO.eprintln raised.message.render
      pure 1

end Vigil.Program

/-- Runs the console. -/
def main (argv : List String) : IO UInt32 := Vigil.Program.run argv
