import Vigil.Number.Reading

/-!
# Why a text is no document

A flaw of the text with its place, an integer of too many digits, or containers nested too deep.
-/

namespace Vigil.Json

/-- What is wrong at a place of the text. -/
inductive Flaw where
  | value
  | propertyName
  | colon
  | comma
  | control
  | escape
  | unicodeEscape
  | unterminated
  | extraData
  | byteOrderMark
  deriving Repr, DecidableEq

/-- The two kinds of container. -/
inductive Container where
  | array
  | object
  deriving Repr, DecidableEq

/-- A place in a text: line and column from one, and the number of characters before it. -/
structure Place where
  line : Nat
  column : Nat
  offset : Nat
  deriving Repr, DecidableEq

/-- Why a text was not read. -/
inductive Fault where
  | flawed (flaw : Flaw) (place : Place)
  | tooLong (digits : Nat)
  | tooDeep (container : Container)
  deriving Repr, DecidableEq

/-- The flaw in words. -/
def Flaw.message : Flaw → String
  | .value => "Expecting value"
  | .propertyName => "Expecting property name enclosed in double quotes"
  | .colon => "Expecting ':' delimiter"
  | .comma => "Expecting ',' delimiter"
  | .control => "Invalid control character at"
  | .escape => "Invalid \\escape"
  | .unicodeEscape => "Invalid \\uXXXX escape"
  | .unterminated => "Unterminated string starting at"
  | .extraData => "Extra data"
  | .byteOrderMark => "Unexpected UTF-8 BOM (decode using utf-8-sig)"

/-- The fault in words. -/
def Fault.message : Fault → String
  | .flawed flaw place =>
    s!"{flaw.message}: line {place.line} column {place.column} (char {place.offset})"
  | .tooLong digits => Number.tooLongMessage digits
  | .tooDeep .array =>
    "maximum recursion depth exceeded while decoding a JSON array from a unicode string"
  | .tooDeep .object =>
    "maximum recursion depth exceeded while decoding a JSON object from a unicode string"

/-- The place before which `offset` characters of the text stand. -/
def Place.of (text : List Char) (offset : Nat) : Place :=
  let before := text.take offset
  { line := before.count '\n' + 1
    column := (before.reverse.takeWhile (· ≠ '\n')).length + 1
    offset }

end Vigil.Json
