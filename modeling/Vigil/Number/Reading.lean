import Vigil.Number.Nearest
import Vigil.Text.Blank
import Vigil.Text.Digit

/-!
# Numbers in texts

What a person may type as a number. An integer is an optional sign and digits of any script; a
single underscore may stand between two digits. A double may have a point and an exponent as well,
or be one of the words for infinity and NaN. Blanks at both ends do not count, except for the four
information separators. An integer of more than 4300 digits is refused before it is computed.
-/

namespace Vigil.Number

/-- The greatest number of digits an integer may have in a text. -/
def digitLimit : Nat := 4300

/-- Why a text is no integer. -/
inductive IntegerFault where
  | malformed
  | tooLong (digits : Nat)
  deriving Repr, DecidableEq

/-- How a row of too many digits is told. -/
def tooLongMessage (digits : Nat) : String :=
  s!"Exceeds the limit ({digitLimit} digits) for integer string conversion: value has {digits}" ++
    " digits; use sys.set_int_max_str_digits() to increase the limit"

/-- How an integer that is too long to be written is told. -/
def tooLongToWriteMessage : String :=
  s!"Exceeds the limit ({digitLimit} digits) for integer string conversion" ++
    "; use sys.set_int_max_str_digits() to increase the limit"

/-- Whether an integer has too many digits to be written. -/
def tooLongToWrite (n : Int) : Bool := Nat.pow 10 digitLimit ≤ n.natAbs

/-- One character of a number with digits of all scripts as ASCII digits and blanks as spaces;
other characters beyond ASCII can be no part of a number and become a question mark. -/
def plainChar (c : Char) : Char :=
  if c.toNat < 127 then c
  else if Text.isBlank c then ' '
  else match Text.digitValue? c with
    | some d => Text.asciiDigit d
    | none => '?'

/-- The blanks of a text in ASCII. -/
def isSpace (c : Char) : Bool := c = ' ' || ('\t' ≤ c && c ≤ '\r')

/-- The text in ASCII without the blanks at its ends. -/
def bare (s : List Char) : List Char :=
  let rest := (s.map plainChar).dropWhile isSpace
  (rest.reverse.dropWhile isSpace).reverse

/-- A sign in front, and the rest. -/
def signed : List Char → Bool × List Char
  | '-' :: rest => (true, rest)
  | '+' :: rest => (false, rest)
  | s => (false, s)

/-- Whether every underscore stands between two digits. `before` says whether a digit stands
directly before. -/
def underscoresOk (before : Bool) : List Char → Bool
  | [] => true
  | '_' :: rest => before && ((rest.head?.map Text.isAsciiDigit).getD false) && underscoresOk false rest
  | c :: rest => underscoresOk (Text.isAsciiDigit c) rest

/-- Reads an integer. -/
def readInteger (s : List Char) : Except IntegerFault Int :=
  let (negative, body) := signed (bare s)
  let row := body.takeWhile fun c => Text.isAsciiDigit c || c = '_'
  let digits := row.filter (· ≠ '_')
  if !underscoresOk false row then .error .malformed
  else if digitLimit < digits.length then .error (.tooLong digits.length)
  else if digits.isEmpty || row.length < body.length then .error .malformed
  else
    let n : Int := Text.digitsValue digits
    .ok (if negative then -n else n)

/-- The exponent behind an `e`, if digits follow it. -/
def readExponent (s : List Char) : Option (Int × List Char) :=
  match s with
  | e :: rest =>
    if e = 'e' ∨ e = 'E' then
      let (negative, body) := signed rest
      let digits := body.takeWhile Text.isAsciiDigit
      if digits.isEmpty then none
      else
        let n : Int := Text.digitsValue digits
        some (if negative then -n else n, body.drop digits.length)
    else none
  | [] => none

/-- The words for what is no finite number, in lower case. -/
def specialWord (negative : Bool) (word : String) : Option Float :=
  if word = "inf" ∨ word = "infinity" then some (ofBits negative infinityBits)
  else if word = "nan" then some (ofBits negative 0x7FF8000000000000)
  else none

/-- Reads an unsigned double: digits with an optional point and an optional exponent. -/
def readUnsigned (negative : Bool) (s : List Char) : Option Float :=
  let whole := s.takeWhile Text.isAsciiDigit
  let afterWhole := s.drop whole.length
  let (fraction, rest) := match afterWhole with
    | '.' :: tail =>
      let fraction := tail.takeWhile Text.isAsciiDigit
      (fraction, tail.drop fraction.length)
    | _ => ([], afterWhole)
  if whole.isEmpty && fraction.isEmpty then none
  else
    let (exponent, rest) := (readExponent rest).getD (0, rest)
    if rest.isEmpty then
      some (ofDecimal negative (Text.digitsValue (whole ++ fraction)) (exponent - fraction.length))
    else none

/-- Reads a double. -/
def readFloat (s : List Char) : Option Float :=
  let s := bare s
  if underscoresOk false s then
    let (negative, body) := signed (s.filter (· ≠ '_'))
    match specialWord negative (String.ofList (body.map Char.toLower)) with
    | some x => some x
    | none => readUnsigned negative body
  else none

end Vigil.Number
