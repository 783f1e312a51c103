import Vigil.Files.Store
import Vigil.Log.Line
import Vigil.Text.Utf8

/-!
# Where log records go

A handler passes on records from its level on: to the console, which leaves out what reporters say
at the lowest level, or to a file. A file that would grow to its greatest size is put aside first:
the older files move up by one number and the oldest is dropped. A record whose line is torn is
lost.
-/

namespace Vigil

/-- Where a handler writes. -/
inductive Sink where
  | console
  | file (path : FilePath) (maxBytes backups : Int)
  deriving Repr, DecidableEq

/-- A sink with the least level it takes. -/
structure Handler where
  level : Int
  sink : Sink
  deriving Repr, DecidableEq

/-- The handlers there are, in the order in which they get a record, and whether the console was
asked to show everything. -/
structure Logging where
  handlers : List Handler := []
  verbose : Bool := false
  deriving Repr, DecidableEq

/-- The text the console shows of a record. -/
def Handler.consoleText (h : Handler) (r : Record) : String :=
  if h.sink = .console ∧ h.level ≤ r.level ∧ r.shown then
    match r.format with
    | .ok line =>
      match line.string with
      | .ok text => text ++ "\n"
      | .error _ => ""
    | .error _ => ""
  else ""

namespace Files

/-- The files with all that stands at a place, or below it, at another place instead. -/
def relocate (fs : Files) (source target : FilePath) : Files :=
  let moved (p : FilePath) : FilePath :=
    if p.root = source.root && source.parts.isPrefixOf p.parts then
      ⟨target.root, target.parts ++ p.parts.drop source.parts.length⟩
    else p
  ⟨(fs.erase target).entries.map fun e => (moved e.1, e.2)⟩

/-- Moves what stands at a place, if anything does, in the place of another file. A directory makes
no room and a name can be too long: then nothing moves, and the files are the error. -/
def move (fs : Files) (source target : FilePath) : Except Files Files :=
  match fs.find? source, fs.find? target, fs.place target with
  | none, _, _ => .ok fs
  | some _, some .directory, _ => .error fs
  | some _, _, .error _ => .error fs
  | some _, _, .ok _ => .ok (fs.relocate source target)

/-- Moves the numbered files up by one, from the number before the last down to the first. -/
def shift (fs : Files) (p : FilePath) : (number : Nat) → Except Files Files
  | 0 => .ok fs
  | number + 1 => do
    let fs ← fs.move (p.withSuffix s!".{number + 1}") (p.withSuffix s!".{number + 2}")
    fs.shift p number

/-- Puts a file aside as the first of its numbered files; without numbered files it stays. The
error is how far this came. -/
def putAside (fs : Files) (p : FilePath) (backups : Int) : Except Files Files :=
  if backups ≤ 0 then .ok fs
  else do
    let fs ← fs.shift p (backups.toNat - 1)
    fs.move p (p.withSuffix ".1")

/-- Writes a line at the end of a log file. A line that has no room is lost if the file cannot be
put aside; a torn line is lost, but takes its room. -/
def appendLine (fs : Files) (p : FilePath) (maxBytes backups : Int) (line : LooseText) : Files :=
  let old := (fs.read p).toOption.getD []
  let full := 0 < maxBytes && maxBytes ≤ old.length + line.length + 1
  match if full then fs.putAside p backups else .ok fs with
  | .error fs => fs
  | .ok fs =>
    match line.string with
    | .error _ => fs
    | .ok line =>
      let old := (fs.read p).toOption.getD []
      (fs.write p (old ++ Text.encodeUtf8 line.toList ++ [10])).toOption.getD fs

end Files

/-- The files after a handler got a record. -/
def Handler.fileEffect (h : Handler) (r : Record) (fs : Files) : Files :=
  match h.sink with
  | .console => fs
  | .file path maxBytes backups =>
    if h.level ≤ r.level then
      match r.format with
      | .ok line => fs.appendLine path maxBytes backups line
      | .error _ => fs
    else fs

/-- Turns the console to everything or back: the first console handler gets the new level. -/
def relevel (level : Int) : List Handler → List Handler
  | [] => []
  | h :: rest =>
    if h.sink = .console then { h with level } :: rest else h :: relevel level rest

/-- Whether there is a console handler. -/
def Logging.hasConsole (l : Logging) : Bool := l.handlers.any (·.sink = .console)

/-- Turns showing everything on or off. -/
def Logging.toggle (l : Logging) : Logging :=
  let verbose := !l.verbose
  { handlers := relevel (if verbose then Level.debug else Level.info) l.handlers, verbose }

end Vigil
