import Vigil.Text.Blank

/-!
# Command lines

A line is cut into parts at its blanks. Double quotes keep blanks in a part and are not part of it;
backslashes are ordinary characters, so that Windows paths survive. `split` reads a line once from
left to right; `numbered`, `pieces` and `reading` say the same without a state.
-/

namespace Vigil.CommandLine

/-- Cuts a text into its parts. `part` is what stands in the present part, in reverse, and `quoted`
says whether a quote is open. A part without characters is none. -/
def partsFrom (part : List Char) (quoted : Bool) : List Char → List (List Char)
  | [] => if part.isEmpty then [] else [part.reverse]
  | c :: rest =>
    if c = '"' then partsFrom part (!quoted) rest
    else if Text.isBlank c && !quoted then
      if part.isEmpty then partsFrom [] quoted rest
      else part.reverse :: partsFrom [] quoted rest
    else partsFrom (c :: part) quoted rest

/-- The parts of a line. -/
def parts (line : List Char) : List (List Char) := partsFrom [] false (Text.trim line)

/-- The parts of a line, as strings. -/
def split (line : String) : List String := (parts line.toList).map String.ofList

/-! ## The same without a state -/

/-- The characters of a text, each with the number of quotes before it. -/
def numbered (quotes : Nat) : List Char → List (Char × Nat)
  | [] => []
  | c :: rest => (c, quotes) :: numbered (if c = '"' then quotes + 1 else quotes) rest

/-- Whether a character separates parts: a blank with an even number of quotes before it. -/
def separates (c : Char × Nat) : Bool := Text.isBlank c.1 && c.2 % 2 == 0

/-- What stands between the separators. -/
def pieces (line : List Char) : List (List Char) :=
  ((numbered 0 (Text.trim line)).splitOnP separates).map (·.map (·.1))

/-- The parts of a line, told without a state: of the pieces between separators, those that are
not empty when their quotes are left out. -/
def reading (line : List Char) : List (List Char) :=
  ((pieces line).map (·.filter (· ≠ '"'))).filter (!·.isEmpty)

end Vigil.CommandLine
