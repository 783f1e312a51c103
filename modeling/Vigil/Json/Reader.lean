import Vigil.Json.Basic
import Vigil.Json.Fault
import Vigil.Text.Digit

/-!
# Reading documents

A reader for JSON texts, with the words `NaN`, `Infinity` and `-Infinity` as numbers. Inside, an
error counts the characters that were left when it arose; `read` turns that into a place. `fuel`
bounds the recursion: two for every character are enough. `depth` is the number of containers that
may still be opened.
-/

namespace Vigil.Json

/-- Limits on what is read. -/
structure Limits where
  /-- How deep containers may be nested. -/
  depth : Nat
  /-- How many digits an integer may have. -/
  digits : Option Nat

/-- The limits of a client: far more nesting than any message has, far less than exhausts it. -/
def Limits.standard : Limits := ⟨990, some Number.digitLimit⟩

/-- An error while reading, its place counted from the end of the text. -/
inductive Stop where
  | flawed (flaw : Flaw) (left : Nat)
  | tooLong (digits : Nat)
  | tooDeep (container : Container)

/-- Blanks between tokens. -/
def isSpace (c : Char) : Bool := c = ' ' || c = '\t' || c = '\n' || c = '\r'

/-- The text without the blanks in front. -/
def skip (s : List Char) : List Char := s.dropWhile isSpace

/-! ## Strings -/

/-- The character of an escape of one letter. -/
def unescape? : Char → Option Char
  | '"' => some '"'
  | '\\' => some '\\'
  | '/' => some '/'
  | 'b' => some (Char.ofNat 8)
  | 'f' => some (Char.ofNat 12)
  | 'n' => some '\n'
  | 'r' => some '\r'
  | 't' => some '\t'
  | _ => none

/-- The value of a hexadecimal digit. -/
def hexValue? (c : Char) : Option Nat :=
  if '0' ≤ c ∧ c ≤ '9' then some (c.toNat - 48)
  else if 'a' ≤ c ∧ c ≤ 'f' then some (c.toNat - 87)
  else if 'A' ≤ c ∧ c ≤ 'F' then some (c.toNat - 55)
  else none

/-- The number of four hexadecimal digits. -/
def hex4? (a b c d : Char) : Option Nat := do
  let a ← hexValue? a
  let b ← hexValue? b
  let c ← hexValue? c
  let d ← hexValue? d
  pure (((a * 16 + b) * 16 + c) * 16 + d)

/-- Whether a unit is the first or the second half of a pair. -/
def isHighHalf (unit : Nat) : Bool := 0xD800 ≤ unit && unit < 0xDC00

@[inherit_doc isHighHalf]
def isLowHalf (unit : Nat) : Bool := 0xDC00 ≤ unit && unit < 0xE000

/-- The character of two halves. -/
def joinHalves (high low : Nat) : Char :=
  Char.ofNat (0x10000 + (high - 0xD800) * 0x400 + (low - 0xDC00))

/-- What an escape of four hexadecimal digits, given the text behind its `u`, comes to. A pair of
escapes is one character, and half a pair without the other is kept. At least one character must
follow the digits. -/
def unicodeEscape (s : List Char) : Except Stop (CodePoint × List Char) :=
  match s with
  | a :: b :: c :: d :: e :: rest =>
    match hex4? a b c d with
    | none => .error (.flawed .unicodeEscape (s.length + 1))
    | some high =>
      match isHighHalf high, e :: rest with
      | true, '\\' :: 'u' :: a' :: b' :: c' :: d' :: e' :: rest' =>
        match hex4? a' b' c' d' with
        | none => .error (.flawed .unicodeEscape (rest'.length + 6))
        | some low =>
          if isLowHalf low then .ok (.char (joinHalves high low), e' :: rest')
          else .ok (.ofUnit high, e :: rest)
      | _, _ => .ok (.ofUnit high, e :: rest)
  | _ => .error (.flawed .unicodeEscape (s.length + 1))

/-- Reads a string behind its opening quote, which had `start` characters left. What was read so
far stands in reverse in `done`. -/
def readString (start : Nat) : (fuel : Nat) → (done : List CodePoint) → List Char →
    Except Stop (LooseText × List Char)
  | 0, _, _ => .error (.flawed .unterminated start)
  | _ + 1, _, [] => .error (.flawed .unterminated start)
  | fuel + 1, done, c :: rest =>
    if c = '"' then .ok (⟨done.reverse⟩, rest)
    else if c = '\\' then
      match rest with
      | [] => .error (.flawed .unterminated start)
      | 'u' :: digits =>
        match unicodeEscape digits with
        | .error stop => .error stop
        | .ok (d, rest) => readString start fuel (d :: done) rest
      | e :: rest' =>
        match unescape? e with
        | some d => readString start fuel (.char d :: done) rest'
        | none => .error (.flawed .escape (rest.length + 1))
    else if c.toNat < 32 then .error (.flawed .control (rest.length + 1))
    else readString start fuel (.char c :: done) rest

/-! ## Numbers -/

/-- The digits of an integer: a zero alone, or a row that starts with another digit. -/
def integerDigits (s : List Char) : List Char :=
  match s with
  | '0' :: _ => ['0']
  | _ => s.takeWhile Text.isAsciiDigit

/-- The digits behind a point, if there are any. -/
def fraction? (s : List Char) : Option (List Char × List Char) :=
  match s with
  | '.' :: rest =>
    let digits := rest.takeWhile Text.isAsciiDigit
    if digits.isEmpty then none else some (digits, rest.drop digits.length)
  | _ => none

/-- Whether a number has a sign in front, and what follows it. -/
def leadingMinus (s : List Char) : Bool × List Char :=
  match s with
  | '-' :: rest => (true, rest)
  | _ => (false, s)

/-- Reads a number. -/
def readNumber (limit : Option Nat) (s : List Char) : Except Stop (Json × List Char) :=
  let (negative, body) := leadingMinus s
  let whole := integerDigits body
  let rest := body.drop whole.length
  if whole.isEmpty then .error (.flawed .value s.length)
  else
    let fraction := fraction? rest
    let rest := (fraction.map (·.2)).getD rest
    let exponent := Number.readExponent rest
    if fraction.isNone && exponent.isNone then
      if limit.any (· < whole.length) then .error (.tooLong whole.length)
      else
        let n : Int := Text.digitsValue whole
        .ok (.int (if negative then -n else n), rest)
    else
      let behind := (fraction.map (·.1)).getD []
      let (power, rest) := exponent.getD (0, rest)
      .ok (.real (Number.ofDecimal negative (Text.digitsValue (whole ++ behind))
        (power - behind.length)), rest)

/-- The text behind a word, if it starts with the word. -/
def afterWord? : (word : List Char) → List Char → Option (List Char)
  | [], s => some s
  | w :: word, c :: s => if w = c then afterWord? word s else none
  | _ :: _, [] => none

/-- The words that stand for values. -/
def words : List (String × Json) :=
  [("null", .null), ("true", .bool true), ("false", .bool false),
    ("NaN", .real (Float.ofBits 0x7FF8000000000000)),
    ("Infinity", .real (Float.ofBits 0x7FF0000000000000)),
    ("-Infinity", .real (Float.ofBits 0xFFF0000000000000))]

/-- Reads a word or a number. -/
def readScalar (limit : Option Nat) (s : List Char) : Except Stop (Json × List Char) :=
  match words.findSome? fun w => (afterWord? w.1.toList s).map fun rest => (w.2, rest) with
  | some found => .ok found
  | none => readNumber limit s

/-! ## Values -/

mutual

/-- Reads a value at the very start of the text. -/
def readValue (limit : Option Nat) : (fuel depth : Nat) → List Char →
    Except Stop (Json × List Char)
  | 0, _, s => .error (.flawed .value s.length)
  | fuel + 1, depth, s =>
    match s with
    | [] => .error (.flawed .value 0)
    | c :: rest =>
      if c = '"' then
        match readString s.length s.length [] rest with
        | .error stop => .error stop
        | .ok (content, rest) => .ok (.text content, rest)
      else if c = '{' then
        match depth with
        | 0 => .error (.tooDeep .object)
        | depth + 1 =>
          match skip rest with
          | '}' :: rest => .ok (.object [], rest)
          | rest => readMembers limit fuel depth [] rest
      else if c = '[' then
        match depth with
        | 0 => .error (.tooDeep .array)
        | depth + 1 =>
          match skip rest with
          | ']' :: rest => .ok (.array [], rest)
          | rest => readItems limit fuel depth [] rest
      else readScalar limit s

/-- Reads the items of an array and its end; what was read so far stands in reverse in `done`. -/
def readItems (limit : Option Nat) : (fuel depth : Nat) → (done : List Json) → List Char →
    Except Stop (Json × List Char)
  | 0, _, _, s => .error (.flawed .value s.length)
  | fuel + 1, depth, done, s =>
    match readValue limit fuel depth s with
    | .error stop => .error stop
    | .ok (value, rest) =>
      match skip rest with
      | ']' :: rest => .ok (.array (value :: done).reverse, rest)
      | ',' :: rest => readItems limit fuel depth (value :: done) (skip rest)
      | rest => .error (.flawed .comma rest.length)

/-- Reads the members of an object and its end; what was read so far stands in reverse in
`done`. -/
def readMembers (limit : Option Nat) : (fuel depth : Nat) → (done : List (LooseText × Json)) →
    List Char → Except Stop (Json × List Char)
  | 0, _, _, s => .error (.flawed .propertyName s.length)
  | fuel + 1, depth, done, s =>
    match s with
    | '"' :: rest =>
      match readString s.length s.length [] rest with
      | .error stop => .error stop
      | .ok (key, rest) =>
        match skip rest with
        | ':' :: rest =>
          match readValue limit fuel depth (skip rest) with
          | .error stop => .error stop
          | .ok (value, rest) =>
            match skip rest with
            | '}' :: rest => .ok (.object (fieldsOf ((key, value) :: done).reverse), rest)
            | ',' :: rest => readMembers limit fuel depth ((key, value) :: done) (skip rest)
            | rest => .error (.flawed .comma rest.length)
        | rest => .error (.flawed .colon rest.length)
    | _ => .error (.flawed .propertyName s.length)

end

/-- Reads a whole text, the place of an error counted from its end. -/
def readAll (limits : Limits) (s : List Char) : Except Stop Json :=
  match readValue limits.digits (2 * s.length + 2) limits.depth (skip s) with
  | .error stop => .error stop
  | .ok (value, rest) =>
    match skip rest with
    | [] => .ok value
    | rest => .error (.flawed .extraData rest.length)

/-- The fault that an error while reading a text comes to. -/
def Stop.fault (s : List Char) : Stop → Fault
  | .flawed flaw left => .flawed flaw (Place.of s (s.length - left))
  | .tooLong digits => .tooLong digits
  | .tooDeep container => .tooDeep container

/-- Reads a document. -/
def readWith (limits : Limits) (s : List Char) : Except Fault Json :=
  if s.head? = some (Char.ofNat 0xFEFF) then .error (.flawed .byteOrderMark (Place.of s 0))
  else match readAll limits s with
    | .ok value => .ok value
    | .error stop => .error (stop.fault s)

/-- Reads a document within the limits of a client. -/
def read (s : List Char) : Except Fault Json := readWith .standard s

end Vigil.Json
