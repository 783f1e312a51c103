/-!
# What a double stands for

A finite double is a whole number times a power of two. `Parts` takes the two out of its bits, so
that texts and whole numbers can be computed from it exactly; `truncate` is the whole number a
double has before its point.
-/

namespace Vigil.Number

/-- A double taken apart. A finite one is `mantissa · 2 ^ exponent` with a sign. -/
inductive Parts where
  | nan
  | infinite (negative : Bool)
  | finite (negative : Bool) (mantissa : Nat) (exponent : Int)
  deriving Repr, DecidableEq

/-- The parts of a double. -/
def Parts.ofFloat (x : Float) : Parts :=
  let bits := x.toBits.toNat
  let negative := bits / Nat.pow 2 63 == 1
  let biased : Nat := bits / Nat.pow 2 52 % 2048
  let fraction := bits % Nat.pow 2 52
  if biased == 2047 then if fraction == 0 then .infinite negative else .nan
  else if biased == 0 then .finite negative fraction (-1074)
  else .finite negative (Nat.pow 2 52 + fraction) ((biased : Int) - 1075)

/-- Why a double has no whole number. -/
inductive NotWhole where
  | infinity
  | notANumber
  deriving Repr, DecidableEq

/-- How the failure is told. -/
def NotWhole.message : NotWhole → String
  | .infinity => "cannot convert float infinity to integer"
  | .notANumber => "cannot convert float NaN to integer"

/-- `mantissa · 2 ^ exponent` without what stands behind the point. -/
def floorScaled (mantissa : Nat) (exponent : Int) : Nat :=
  mantissa * Nat.pow 2 exponent.toNat / Nat.pow 2 (-exponent).toNat

/-- The whole number of a double: what stands behind the point is dropped. -/
def truncate (x : Float) : Except NotWhole Int :=
  match Parts.ofFloat x with
  | .nan => .error .notANumber
  | .infinite _ => .error .infinity
  | .finite negative mantissa exponent =>
    let n : Int := floorScaled mantissa exponent
    .ok (if negative then -n else n)

/-- Whether a double is neither infinite nor NaN. -/
def isFinite (x : Float) : Bool :=
  match Parts.ofFloat x with
  | .finite .. => true
  | _ => false

/-- **Every finite double has a whole number.** -/
theorem truncate_isOk_iff (x : Float) : (∃ n, truncate x = .ok n) ↔ isFinite x = true := by
  unfold truncate isFinite
  cases Parts.ofFloat x <;> simp

end Vigil.Number
