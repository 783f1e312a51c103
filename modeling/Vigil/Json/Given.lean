import Vigil.Fault.Mishap
import Vigil.Json.Reader
import Vigil.Json.Writer

/-!
# Writing what was given

A caller may give more to be written than a document can hold: an object of another kind, a key that
is no name, containers that are nested too deep or hold themselves. `Given` is such a value as the
writer comes upon it. It is written to a file with one field or item a line, piece by piece: a piece
is put on paper as a whole or not at all, and the first that cannot be written ends the writing, so
that what stands in the file then is a document's beginning.
-/

namespace Vigil

/-- A value that is given to be written. -/
inductive Given where
  | null
  | bool (b : Bool)
  | int (n : Int)
  | real (x : Float)
  | text (s : LooseText)
  | array (items : List Given)
  /-- The keys are told as they are written, or by what is raised if they cannot be. -/
  | object (fields : List (Except Mishap LooseText × Given))
  /-- What no document can hold, by what is raised where the writer comes upon it. -/
  | foreign (why : Mishap)

namespace Given

mutual

/-- What a document gives to be written. -/
def ofJson : Json → Given
  | .null => .null
  | .bool b => .bool b
  | .int n => .int n
  | .real x => .real x
  | .text s => .text s
  | .array items => .array (ofItems items)
  | .object fields => .object (ofFields fields)

@[inherit_doc ofJson]
def ofItems : List Json → List Given
  | [] => []
  | value :: rest => ofJson value :: ofItems rest

@[inherit_doc ofJson]
def ofFields : List (LooseText × Json) → List (Except Mishap LooseText × Given)
  | [] => []
  | (key, value) :: rest => (.ok key, ofJson value) :: ofFields rest

end

/-! ## Pieces -/

/-- How deep the containers may be nested that are written: as deep as those that are read. -/
def depth : Nat := Json.Limits.standard.depth

/-- What is raised where containers are nested too deep. -/
def tooDeep : Mishap := .raised "RecursionError" "maximum recursion depth exceeded"

/-- The line feed and the blanks in front of a line. -/
def newLine (level : Nat) : List Char := '\n' :: List.replicate (4 * level) ' '

/-- An integer behind its lead, as one piece. -/
def integerPiece (lead : List Char) (n : Int) : Except Mishap (List Char) :=
  if Number.tooLongToWrite n then .error .tooLongToWrite else .ok (lead ++ Json.scalar (.int n))

mutual

/-- The pieces of a value behind its lead. Its lines stand at `level`, which is as deep as it is
nested. -/
def pieces (level : Nat) (lead : List Char) : Given → List (Except Mishap (List Char))
  | .null => [.ok (lead ++ Json.scalar .null)]
  | .bool b => [.ok (lead ++ Json.scalar (.bool b))]
  | .int n => [integerPiece lead n]
  | .real x => [.ok (lead ++ Json.scalar (.real x))]
  | .text s => [.ok (lead ++ Json.scalar (.text s))]
  | .array items =>
    if items.isEmpty then [.ok (lead ++ ['[', ']'])]
    else if level < depth then
      .ok lead :: itemPieces (level + 1) ('[' :: newLine (level + 1)) items ++
        [.ok (newLine level ++ [']'])]
    else [.ok lead, .error tooDeep]
  | .object fields =>
    if fields.isEmpty then [.ok (lead ++ ['{', '}'])]
    else if level < depth then
      .ok (lead ++ '{' :: newLine (level + 1)) :: fieldPieces (level + 1) [] fields ++
        [.ok (newLine level ++ ['}'])]
    else [.ok lead, .error tooDeep]
  | .foreign why => [.ok lead, .error why]

/-- The pieces of items, the first of them behind the lead. -/
def itemPieces (level : Nat) (lead : List Char) : List Given → List (Except Mishap (List Char))
  | [] => []
  | value :: rest => pieces level lead value ++ itemPieces level (',' :: newLine level) rest

/-- The pieces of fields, the first of them behind the lead. -/
def fieldPieces (level : Nat) (lead : List Char) :
    List (Except Mishap LooseText × Given) → List (Except Mishap (List Char))
  | [] => []
  | (.error why, _) :: _ => [.error why]
  | (.ok key, value) :: rest =>
    .ok (lead ++ Json.quote key ++ [':', ' ']) :: pieces level [] value ++
      fieldPieces level (',' :: newLine level) rest

end

/-- What is put on paper of some pieces, and what ends it before all of them are. -/
def put : List (Except Mishap (List Char)) → List Char × Option Mishap
  | [] => ([], none)
  | .error why :: _ => ([], some why)
  | .ok s :: rest => let (s', fault) := put rest; (s ++ s', fault)

/-- A value with one field or item a line, as far as it can be written, and what ends it. -/
def indented (value : Given) : List Char × Option Mishap := put (pieces 0 [] value)

end Given

end Vigil
