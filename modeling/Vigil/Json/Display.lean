import Vigil.Json.Basic
import Vigil.Number.Shortest

/-!
# Values in messages

How a value of a document is shown inside a message. A text by itself is shown as it is; inside a
container it stands between quotes.
-/

namespace Vigil.Json

mutual

/-- A value inside a container. -/
def nested : Json → String
  | .null => "None"
  | .bool b => if b then "True" else "False"
  | .int n => toString n
  | .real x => Number.plain.render x
  | .text s => s.quoted
  | .array items => "[" ++ nestedItems items ++ "]"
  | .object fields => "\x7b" ++ nestedFields fields ++ "\x7d"

/-- The items of an array, with commas between them. -/
def nestedItems : List Json → String
  | [] => ""
  | [value] => nested value
  | value :: rest => nested value ++ ", " ++ nestedItems rest

/-- The fields of an object, with commas between them. -/
def nestedFields : List (LooseText × Json) → String
  | [] => ""
  | [(key, value)] => key.quoted ++ ": " ++ nested value
  | (key, value) :: rest =>
    key.quoted ++ ": " ++ nested value ++ ", " ++ nestedFields rest

end

/-- A value in a message. -/
def display : Json → String
  | .text s => s.render
  | value => nested value

end Vigil.Json
