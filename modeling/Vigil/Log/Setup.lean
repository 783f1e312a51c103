import Vigil.Settings.Basic
import Vigil.World.Act

/-!
# Setting up the log

The handlers there are from the start: the console, with a level of its own or that of the
settings, and a log file if one is named. A file that the operating system does not open is
reported on the console, and there is none then.
-/

namespace Vigil

/-- The console's level in the settings; a name that is no level stands for the usual one. -/
def Settings.consoleLevel (s : Settings) : Int := (Level.ofName? s.logLevel).getD Level.info

/-- The files with an empty log file, unless there is one, and the directories its path leads
through, and what went wrong. The file itself stands where the parts of its path say. -/
def Files.openLog (fs : Files) (p : FilePath) : Files × Option Mishap :=
  match fs.makeDirectories p.parent with
  | (fs, none) =>
    let content := (fs.read p.target).toOption.getD []
    match fs.write p.target content with
    | .ok fs => (fs, none)
    | .error fault => (fs, some (fault.mishap p.target))
  | failed => failed

namespace Settings

/-- Adds a handler. -/
def addHandler {σ : Type} (h : Handler) : Act σ Unit :=
  Act.alter fun w => { w with logging.handlers := w.logging.handlers ++ [h] }

/-- Sets up the log anew. What is not given is taken from the settings; an empty path is no file. -/
def setUpLog {σ : Type} (s : Settings) (level : Option Int := none) (file : Option String := none) :
    Act σ Unit := do
  Act.alter fun w => { w with logging.handlers := [] }
  addHandler ⟨level.getD s.consoleLevel, .console⟩
  let file := file.getD s.logFile
  unless file = "" do
    let path := FilePath.of file
    let (files, failure) := (← Act.world).files.openLog path
    Act.alter fun w => { w with files }
    match failure with
    | none => addHandler ⟨Level.debug, .file path.target s.logFileMaxBytes s.logFileBackups⟩
    | some (.os fault) =>
      Act.log .root Level.error
        s!"Failed to initialize file logging handler for '{file}': {fault.message}"
    | some mishap => Act.stumble mishap

end Settings

end Vigil
