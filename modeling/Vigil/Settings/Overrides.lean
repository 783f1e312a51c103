import Vigil.Json.Given
import Vigil.Json.Reader
import Vigil.Settings.Conversion
import Vigil.Text.Line

/-!
# Overrides

The file that changes settings: a document with an object of names and values. Reading it starts
from settings and changes those that may be changed; entries with other names, and values that
cannot be converted, are left out, each with a record in the log. Writing it keeps only the settings
that may be changed.
-/

namespace Vigil.Overrides

variable {σ : Type}

/-- Logs a message. -/
def log (level : Int) (message : String) : Act σ Unit := Act.log .overrides level message

/-- Names that an entry may not have although no setting has them. -/
def takenNames : List String :=
  ["_load_defaults", "_load_overrides", "get", "save_overrides", "__class__", "__delattr__",
    "__dict__", "__dir__", "__doc__", "__eq__", "__format__", "__ge__", "__getattribute__",
    "__getstate__", "__gt__", "__hash__", "__init__", "__init_subclass__", "__le__", "__lt__",
    "__module__", "__ne__", "__new__", "__reduce__", "__reduce_ex__", "__repr__", "__setattr__",
    "__sizeof__", "__str__", "__subclasshook__", "__weakref__"]

/-- Whether a name means something, if not a setting that may be changed. -/
def isKnown (s : Settings) (name : String) : Bool :=
  (s.get? name).isSome || Settings.placeNames.contains name || takenNames.contains name

/-- The settings after one entry of the file. -/
def applyEntry (s : Settings) (name : String) (value : Json) : Act σ Settings := do
  match Modifiable.ofName? name with
  | none =>
    log Level.warning <|
      if isKnown s name then
        s!"Attempted to override non-modifiable setting '{name}'. Ignoring."
      else s!"Override setting '{name}' not found in default settings. Ignoring."
    pure s
  | some m =>
    match ← Act.orStumble (Setting.convert m.kind value) with
    | .error fault =>
      log Level.error (s!"Could not convert override '{value.display}' for key '{name}': " ++
        s!"{fault.message}. Ignoring.")
      pure s
    | .ok setting =>
      log Level.debug s!"Overridden setting: {name} = {setting.display}"
      pure (s.assign m setting)

/-- The settings after all entries of the file. -/
def apply (s : Settings) : List (LooseText × Json) → Act σ Settings
  | [] => pure s
  | (name, value) :: rest => do apply (← applyEntry s name.render value) rest

/-- Reads the content of the file. A text that is no document is logged; bytes that are no text,
and a document beyond the limits, are mishaps. -/
def readContent (path : FilePath) (content : Bytes) : Act σ (Option Json) := do
  let text ← Act.orStumble ((Text.decodeUtf8 content).mapError .notUtf8)
  match Json.read (Text.unixLines text) with
  | .ok document => pure (some document)
  | .error (.flawed flaw place) =>
    let fault := Json.Fault.flawed flaw place
    log Level.error s!"Failed to load or parse overrides file '{path.render}': {fault.message}"
    pure none
  | .error fault => Act.stumble (.document fault)

/-- Logs that the file cannot be used, if the operating system says so; any other reason is a
mishap. -/
def refuse (aim : String) (path : FilePath) (fault : PathFault) : Act σ Unit :=
  match fault.mishap path with
  | .os fault => log Level.error s!"Failed to {aim} overrides file '{path.render}': {fault.message}"
  | mishap => Act.stumble mishap

/-- The settings after the file of overrides, if it is there. -/
def load (s : Settings) (path : FilePath) : Act σ Settings := do
  let files := (← Act.world).files
  if ← Act.orStumble ((files.has path).mapError (·.mishap path)) then
    match files.read path with
    | .error fault =>
      refuse "load or parse" path fault
      pure s
    | .ok content =>
      match ← readContent path content with
      | none => pure s
      | some (.object entries) =>
        log Level.info s!"Loading configuration overrides from {path.render}"
        apply s entries
      | some _ =>
        log Level.error
          s!"Overrides file '{path.render}' must contain a JSON object. Ignoring."
        pure s
  else pure s

/-- The entries that may be changed. -/
def modifiable {α : Type} (entries : List (LooseText × α)) : List (LooseText × α) :=
  entries.filter fun e => (Modifiable.ofName? e.1.render).isSome

/-- What is given to be written for entries. -/
def object (entries : List (LooseText × Given)) : Given :=
  .object (entries.map fun e => (.ok e.1, e.2))

/-- Writes the entries that may be changed to the file of overrides. The file is emptied first, and
what was written before a value that cannot be written stays in it. -/
def store (path : FilePath) (entries : List (LooseText × Given)) : Act σ Unit := do
  let kept := modifiable entries
  if kept.isEmpty then log Level.warning "No modifiable settings provided to save."
  else
    let (text, fault) := (object kept).indented
    match (← Act.world).files.write path (Text.encodeUtf8 text) with
    | .error fault => refuse "write to" path fault
    | .ok files =>
      Act.alter fun w => { w with files }
      match fault with
      | none => log Level.info s!"Configuration overrides saved to {path.render}"
      | some why => Act.stumble why

/-- Saves the entries of a document. -/
def save (path : FilePath) (entries : List (LooseText × Json)) : Act σ Unit :=
  store path (entries.map fun e => (e.1, .ofJson e.2))

end Vigil.Overrides
