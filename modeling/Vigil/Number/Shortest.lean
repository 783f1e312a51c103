import Vigil.Number.Parts
import Vigil.Text.Digit

/-!
# The shortest decimal of a double

The fewest digits that are nearer to a double than to any other, and of those the ones nearest to
it. The search goes through the decimal grids from coarse to fine: if a point of a grid reads back,
so does one of the two neighbours of the double on that grid. `Layout` lays the digits out.
-/

namespace Vigil.Number

/-- `digits · 10 ^ exponent`. -/
structure Decimal where
  digits : Nat
  exponent : Int
  deriving Repr, DecidableEq

/-- The decimals that read back to a double: those between `low` and `high`, counted in quarters
of the double's last bit, `unit` of them being `scale / den`. The ends belong to it if the
mantissa is even. -/
structure Interval where
  value : Nat
  low : Nat
  high : Nat
  den : Nat
  closed : Bool

/-- The interval of the double `mantissa · 2 ^ exponent`. -/
def Interval.of (mantissa : Nat) (exponent : Int) : Interval :=
  let scale := Nat.pow 2 (exponent - 2).toNat
  let narrow := mantissa == Nat.pow 2 52 && exponent > -1074
  { value := 4 * mantissa * scale
    low := (if narrow then 4 * mantissa - 1 else 4 * mantissa - 2) * scale
    high := (4 * mantissa + 2) * scale
    den := Nat.pow 2 (2 - exponent).toNat
    closed := mantissa % 2 == 0 }

/-- Whether `digits · 10 ^ exponent` reads back. -/
def Interval.holds (i : Interval) (digits : Nat) (exponent : Int) : Bool :=
  let point := digits * Nat.pow 10 exponent.toNat * i.den
  let up := Nat.pow 10 (-exponent).toNat
  if i.closed then i.low * up ≤ point && point ≤ i.high * up
  else i.low * up < point && point < i.high * up

/-- The neighbour on the grid of step `10 ^ exponent` that reads back and is nearest. -/
def Interval.onGrid (i : Interval) (exponent : Int) : Option Nat :=
  let num := i.value * Nat.pow 10 (-exponent).toNat
  let den := i.den * Nat.pow 10 exponent.toNat
  let below := num / den
  let twice := 2 * (num % den)
  match i.holds below exponent, i.holds (below + 1) exponent with
  | true, true =>
    some (if twice < den || (twice == den && below % 2 == 0) then below else below + 1)
  | true, false => some below
  | false, true => some (below + 1)
  | false, false => none

/-- The place of the decimal point: the double is below `10 ^ place` and not far below it. -/
def Interval.place (i : Interval) : Int :=
  if i.den ≤ i.value then (Nat.toDigits 10 (i.value / i.den)).length
  else 1 - (Nat.toDigits 10 (i.den / i.value)).length

/-- The decimal with at most `most` zeros at the end of its digits moved into the exponent. -/
def stripZeros : (most : Nat) → Decimal → Decimal
  | 0, d => d
  | most + 1, d => if d.digits % 10 = 0 then stripZeros most ⟨d.digits / 10, d.exponent + 1⟩ else d

/-- All digits of the double `mantissa · 2 ^ exponent`. -/
def exactDecimal (mantissa : Nat) (exponent : Int) : Decimal :=
  ⟨mantissa * Nat.pow 2 exponent.toNat * Nat.pow 5 (-exponent).toNat, min exponent 0⟩

/-- The shortest decimal of the double `mantissa · 2 ^ exponent`. Seventeen digits are enough. -/
def shortest (mantissa : Nat) (exponent : Int) : Decimal :=
  if mantissa = 0 then ⟨0, 0⟩ else
    let i := Interval.of mantissa exponent
    let found := (List.range 17).findSome? fun (n : Nat) =>
      let grid : Int := i.place - (n + 1)
      (i.onGrid grid).map fun digits => Decimal.mk digits grid
    stripZeros 20 (found.getD (exactDecimal mantissa exponent))

/-- How the digits of a double are laid out. -/
structure Layout where
  /-- The least and the greatest place of the point at which no exponent is written. -/
  positionalFrom : Int
  positionalTo : Int
  /-- What follows a number without a fraction. -/
  whole : String
  /-- The least number of digits in an exponent. -/
  exponentWidth : Nat
  notANumber : String
  infinity : String

/-- Digits with zeros in front up to a width. -/
def leftZeros (width : Nat) (digits : List Char) : List Char :=
  List.replicate (width - digits.length) '0' ++ digits

/-- Lays out `digits · 10 ^ exponent`. -/
def Layout.layout (how : Layout) (d : Decimal) : String :=
  let digits := Text.decimal d.digits
  let place : Int := if d.digits = 0 then 1 else digits.length + d.exponent
  if how.positionalFrom ≤ place ∧ place ≤ how.positionalTo then
    if place ≤ 0 then
      "0." ++ String.ofList (List.replicate (-place).toNat '0' ++ digits)
    else if digits.length ≤ place.toNat then
      String.ofList (digits ++ List.replicate (place.toNat - digits.length) '0') ++ how.whole
    else
      String.ofList (digits.take place.toNat ++ '.' :: digits.drop place.toNat)
  else
    let exponent := place - 1
    let fraction := if digits.length = 1 then [] else '.' :: digits.drop 1
    String.ofList (digits.take 1 ++ fraction ++ 'e' :: (if exponent < 0 then '-' else '+') ::
      leftZeros how.exponentWidth (Text.decimal exponent.natAbs))

/-- The text of a double. -/
def Layout.render (how : Layout) (x : Float) : String :=
  match Parts.ofFloat x with
  | .nan => how.notANumber
  | .infinite negative => (if negative then "-" else "") ++ how.infinity
  | .finite negative mantissa exponent =>
    (if negative then "-" else "") ++ how.layout (shortest mantissa exponent)

/-- Numbers in messages: positional from 0.0001 up to sixteen places, otherwise with a signed
exponent of two digits; a whole number keeps one zero behind the point. -/
def plain : Layout where
  positionalFrom := -3
  positionalTo := 16
  whole := ".0"
  exponentWidth := 2
  notANumber := "nan"
  infinity := "inf"

/-- Numbers in documents: as in messages, but with the words for what is not finite spelled out. -/
def document : Layout := { plain with notANumber := "NaN", infinity := "Infinity" }

end Vigil.Number
