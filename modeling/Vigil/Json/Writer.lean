import Vigil.Json.Basic
import Vigil.Number.Shortest
import Vigil.Number.Reading

/-!
# Writing documents

Documents in printable ASCII, without any blanks as they go over the pipe. An integer of more than
4300 digits cannot be written: `Json.writable` says whether a document has none.
-/

namespace Vigil.Json

/-- An escape of four hexadecimal digits. -/
def unitEscape (unit : Nat) : List Char := '\\' :: 'u' :: Text.hexDigits 4 unit

/-- One character of a written string. -/
def escapeChar (c : Char) : List Char :=
  if c = '"' then ['\\', '"']
  else if c = '\\' then ['\\', '\\']
  else if c = '\n' then ['\\', 'n']
  else if c = '\r' then ['\\', 'r']
  else if c = '\t' then ['\\', 't']
  else if c = Char.ofNat 12 then ['\\', 'f']
  else if c = Char.ofNat 8 then ['\\', 'b']
  else if ' ' ≤ c ∧ c ≤ '~' then [c]
  else if c.toNat < 0x10000 then unitEscape c.toNat
  else
    let n := c.toNat - 0x10000
    unitEscape (0xD800 + n / 0x400) ++ unitEscape (0xDC00 + n % 0x400)

/-- One code point of a written string. -/
def escapePoint : CodePoint → List Char
  | .char c => escapeChar c
  | .half offset => unitEscape (0xD800 + offset)

/-- A written string. -/
def quote (s : LooseText) : List Char := '"' :: s.points.flatMap escapePoint ++ ['"']

/-- A written value that is no container. -/
def scalar : Json → List Char
  | .null => "null".toList
  | .bool true => "true".toList
  | .bool false => "false".toList
  | .int n => Text.integer n
  | .real x => (Number.document.render x).toList
  | .text s => quote s
  | _ => []

/-! ## Compact form -/

mutual

/-- A document without blanks. -/
def compact : Json → List Char
  | .array items => '[' :: compactItems items ++ [']']
  | .object fields => '{' :: compactFields fields ++ ['}']
  | value => scalar value

/-- The items of an array, with commas between them. -/
def compactItems : List Json → List Char
  | [] => []
  | [value] => compact value
  | value :: rest => compact value ++ ',' :: compactItems rest

/-- The fields of an object, with commas between them. -/
def compactFields : List (LooseText × Json) → List Char
  | [] => []
  | [(key, value)] => quote key ++ ':' :: compact value
  | (key, value) :: rest => quote key ++ ':' :: compact value ++ ',' :: compactFields rest

end

/-! ## What can be written -/

mutual

/-- Whether no integer of the document has too many digits. -/
def writable : Json → Bool
  | .int n => !Number.tooLongToWrite n
  | .array items => writableItems items
  | .object fields => writableFields fields
  | _ => true

@[inherit_doc writable]
def writableItems : List Json → Bool
  | [] => true
  | value :: rest => writable value && writableItems rest

@[inherit_doc writable]
def writableFields : List (LooseText × Json) → Bool
  | [] => true
  | (_, value) :: rest => writable value && writableFields rest

end

/-- The text of a document without blanks, if it can be written. -/
def compact? (value : Json) : Option (List Char) :=
  if writable value then some (compact value) else none

end Vigil.Json
