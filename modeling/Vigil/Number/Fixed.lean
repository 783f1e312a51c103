import Vigil.Number.Nearest
import Vigil.Number.Parts
import Vigil.Text.Digit

/-!
# Fixed places

A double with a set number of places behind the point. What is rounded is the exact value of the
double, and a tie goes to the even digit.
-/

namespace Vigil.Number

/-- `mantissa · 2 ^ exponent` in units of `10 ^ -places`, rounded. -/
def roundPlaces (places mantissa : Nat) (exponent : Int) : Nat :=
  roundDiv (mantissa * Nat.pow 2 exponent.toNat * Nat.pow 10 places) (Nat.pow 2 (-exponent).toNat)

/-- A number of units of `10 ^ -places`, with its point. At least one digit stands before it. -/
def pointed (places units : Nat) : String :=
  let digits := Text.decimal units
  let digits := List.replicate (places + 1 - digits.length) '0' ++ digits
  let whole := digits.length - places
  String.ofList (digits.take whole ++ '.' :: digits.drop whole)

/-- A double with `places` digits behind the point, at least one. -/
def fixed (places : Nat) (x : Float) : String :=
  match Parts.ofFloat x with
  | .nan => "nan"
  | .infinite negative => if negative then "-inf" else "inf"
  | .finite negative mantissa exponent =>
    (if negative then "-" else "") ++ pointed places (roundPlaces places mantissa exponent)

end Vigil.Number
