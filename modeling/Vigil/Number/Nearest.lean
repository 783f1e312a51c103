/-!
# The double nearest to a quotient

A quotient of whole numbers is rounded to the nearest double, a tie to the even mantissa. The
conversions of integers, of decimals and of quotients are instances. Only the exponent is looked
for; everything else is exact arithmetic on naturals.
-/

namespace Vigil.Number

/-- `num / den` rounded to a whole number, a tie to the even one. -/
def roundDiv (num den : Nat) : Nat :=
  let q := num / den
  let r := num % den
  if 2 * r > den || (2 * r == den && q % 2 == 1) then q + 1 else q

/-- The exponent at which the quotient has a mantissa of 53 bits, but no less than the least
exponent of a double. -/
def exponentFor (num den : Nat) : Int :=
  let guess : Int := (num.log2 : Int) - den.log2 - 52
  let mantissa := num * Nat.pow 2 (-guess).toNat / (den * Nat.pow 2 guess.toNat)
  max (if mantissa < Nat.pow 2 52 then guess - 1 else guess) (-1074)

/-- The bits of the double nearest to `num / den`, as far as it is below infinity. -/
def nearestBits (num den : Nat) : Nat :=
  if num = 0 then 0 else
    let e := exponentFor num den
    let mantissa := roundDiv (num * Nat.pow 2 (-e).toNat) (den * Nat.pow 2 e.toNat)
    (e + 1074).toNat * Nat.pow 2 52 + mantissa

/-- The bits of positive infinity. -/
def infinityBits : Nat := 0x7FF0000000000000

/-- A double from its sign and its other bits. -/
def ofBits (negative : Bool) (bits : Nat) : Float :=
  Float.ofBits (UInt64.ofNat (bits + if negative then Nat.pow 2 63 else 0))

/-- The double nearest to a quotient; nothing if it would be infinite. -/
def nearest? (negative : Bool) (num den : Nat) : Option Float :=
  let bits := nearestBits num den
  if bits < infinityBits then some (ofBits negative bits) else none

/-- The double nearest to an integer; nothing if it would be infinite. -/
def ofInt? (n : Int) : Option Float := nearest? (n < 0) n.natAbs 1

/-- The double nearest to a quotient of integers; nothing if it would be infinite. -/
def quotient? (n : Int) (den : Nat) : Option Float := nearest? (n < 0) n.natAbs den

/-- The double nearest to `digits · 10 ^ exponent`, infinity included. The bounds only keep the
numbers small where the answer is certain. -/
def ofDecimal (negative : Bool) (digits : Nat) (exponent : Int) : Float :=
  if digits = 0 then ofBits negative 0 else
    let magnitude : Int := (Nat.toDigits 10 digits).length + exponent
    if magnitude > 400 then ofBits negative infinityBits
    else if magnitude < -400 then ofBits negative 0
    else (nearest? negative (digits * Nat.pow 10 exponent.toNat) (Nat.pow 10 (-exponent).toNat)).getD
      (ofBits negative infinityBits)

end Vigil.Number
