import Vigil.Number.Reading
import Vigil.Protocol.Item

/-!
# Arguments of the add command

`<exe_path> <name> [--id ID] [--args ARGS] [--timeout MS]`, options and positions in any order. The
list is read once from left to right: an option takes the next string, whatever it is, and any
other string is a position. A value of an option takes the place of an earlier one.
-/

namespace Vigil

/-- The options of the add command. -/
inductive AddOption where
  | id
  | args
  | timeout
  deriving Repr, DecidableEq

/-- The word that names an option. -/
def AddOption.word : AddOption → String
  | .id => "--id"
  | .args => "--args"
  | .timeout => "--timeout"

/-- The option a word names. -/
def AddOption.ofWord? (word : String) : Option AddOption :=
  if word = "--id" then some .id
  else if word = "--args" then some .args
  else if word = "--timeout" then some .timeout
  else none

/-- Why arguments are refused. -/
inductive AddRefusal where
  | missingValue (name : AddOption)
  | usage
  | invalidTimeout (text : String)
  | timeoutNotPositive
  deriving Repr, DecidableEq

/-- The refusal in words. -/
def AddRefusal.message : AddRefusal → String
  | .missingValue name => s!"Missing value for '{name.word}'."
  | .usage => "Usage: add <exe_path> <name> [--id ID] [--args ARGS] [--timeout MS]"
  | .invalidTimeout text => s!"Invalid timeout '{text}': expected milliseconds."
  | .timeoutNotPositive => "Timeout must be a positive number of milliseconds."

namespace AddArgs

/-- What was given so far: the positions in their order, and the value each option was given. -/
structure Given where
  positions : List String := []
  value? : AddOption → Option String := fun _ => none

/-- A position behind those that were given. -/
def Given.place (g : Given) (word : String) : Given := { g with positions := g.positions ++ [word] }

/-- A value of an option, in the place of the one it was given before. -/
def Given.assign (g : Given) (name : AddOption) (value : String) : Given :=
  { g with value? := fun n => if n = name then some value else g.value? n }

/-- Reads arguments from left to right, behind what was given before them. -/
def readFrom (g : Given) : List String → Except AddRefusal Given
  | [] => .ok g
  | [word] =>
    match AddOption.ofWord? word with
    | some name => .error (.missingValue name)
    | none => .ok (g.place word)
  | word :: next :: rest =>
    match AddOption.ofWord? word with
    | some name => readFrom (g.assign name next) rest
    | none => readFrom (g.place word) (next :: rest)

/-- The timeout that is asked for. -/
def timeoutOf (default : Int) : Option String → Except AddRefusal Int
  | none => .ok default
  | some text =>
    match Number.readInteger text.toList with
    | .error _ => .error (.invalidTimeout text)
    | .ok n => if n ≤ 0 then .error .timeoutNotPositive else .ok n

/-- What is asked for by what was given: an executable, a name and the rest of a new item. -/
def Given.request (g : Given) (defaultTimeout : Int) :
    Except AddRefusal (String × String × ItemOptions) :=
  match g.positions with
  | [exePath, name] => do
    let heartbeatTimeout ← timeoutOf defaultTimeout (g.value? .timeout)
    pure (exePath, name, { id := g.value? .id
                           args := (g.value? .args).getD ""
                           heartbeatTimeout })
  | _ => throw .usage

/-- What arguments ask for. -/
def parse (defaultTimeout : Int) (args : List String) :
    Except AddRefusal (String × String × ItemOptions) := do
  let given ← readFrom {} args
  given.request defaultTimeout

end AddArgs

end Vigil
