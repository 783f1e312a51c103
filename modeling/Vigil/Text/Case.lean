import Vigil.Text.Case.Lower
import Vigil.Text.Case.Upper
import Vigil.Text.Case.Context
import Vigil.Text.Loose

/-!
# Lower and upper case of texts

The full case maps of Unicode 14. A capital sigma becomes the final small sigma at the end of a
word: where a cased character stands before it and none after it, characters that case mapping
passes over left out.
-/

namespace Vigil.Text

/-- Whether the first character that is not passed over is cased. -/
def meetsCased (s : List Char) : Bool :=
  ((s.dropWhile isCaseIgnorable).head?.map isCased).getD false

/-- The lower case of a character between others, of those before it the nearest first. -/
def lowerAmid (before : List Char) (c : Char) (behind : List Char) : List Char :=
  if c = 'Σ' then if meetsCased before && !meetsCased behind then ['ς'] else ['σ']
  else lowerChar c

/-- The lower case of a text, given what stands before it, the nearest character first. -/
def lowerFrom (before : List Char) : List Char → List Char
  | [] => []
  | c :: rest => lowerAmid before c rest ++ lowerFrom (c :: before) rest

/-- The lower case of a text. -/
def lower (s : List Char) : List Char := lowerFrom [] s

/-- The upper case of a text. -/
def upper (s : List Char) : List Char := s.flatMap upperChar

/-- The lower case of a string. -/
def lowerString (s : String) : String := String.ofList (lower s.toList)

/-- The upper case of a string. -/
def upperString (s : String) : String := String.ofList (upper s.toList)

end Vigil.Text

namespace Vigil.LooseText

/-- The characters in front of the first half. -/
def leading : List CodePoint → List Char
  | .char c :: rest => c :: leading rest
  | _ => []

/-- The lower case of code points, given the characters between them and the half before. A half is
as much an end of a word as the end of the text is, and has no case. -/
def lowerFrom (before : List Char) : List CodePoint → List CodePoint
  | [] => []
  | .half offset :: rest => .half offset :: lowerFrom [] rest
  | .char c :: rest =>
    (Text.lowerAmid before c (leading rest)).map .char ++ lowerFrom (c :: before) rest

/-- The lower case of a text. -/
def lower (s : LooseText) : LooseText := ⟨lowerFrom [] s.points⟩

theorem leading_char (cs : List Char) : leading (cs.map .char) = cs := by
  induction cs with
  | nil => rfl
  | cons c rest ih => simp [leading, ih]

theorem lowerFrom_char (before cs : List Char) :
    lowerFrom before (cs.map .char) = (Text.lowerFrom before cs).map .char := by
  induction cs generalizing before with
  | nil => rfl
  | cons c rest ih => simp [lowerFrom, Text.lowerFrom, leading_char, ih]

/-- The lower case of a string is that of the string as a text. -/
theorem lower_ofString (s : String) : (ofString s).lower = ofString (Text.lowerString s) := by
  simp [lower, ofString, lowerFrom_char, Text.lowerString, Text.lower]

end Vigil.LooseText
