/-!
# Sets of characters as ranges of code points

A Unicode property is written down as an ascending list of closed ranges. `within` is membership;
`Stride` adds a step and a shift, which is how a case map is written down.
-/

namespace Vigil.Text

/-- Membership of a code point in a list of closed ranges. -/
def within (ranges : List (Nat × Nat)) (c : Char) : Bool :=
  ranges.any fun r => r.1 ≤ c.toNat && c.toNat ≤ r.2

/-- The code points `first`, `first + step`, … up to `last`, each of them moved by `shift`. -/
structure Stride where
  first : Nat
  last : Nat
  step : Nat
  shift : Int
  deriving Repr

/-- Whether the stride moves the character. -/
def Stride.covers (s : Stride) (c : Char) : Bool :=
  s.first ≤ c.toNat && c.toNat ≤ s.last && (c.toNat - s.first) % s.step == 0

/-- The character the stride moves `c` to. -/
def Stride.move (s : Stride) (c : Char) : Char := Char.ofNat (Int.toNat (c.toNat + s.shift))

/-- The first stride that covers a character moves it; without one it stays. -/
def Stride.apply (strides : List Stride) (c : Char) : Char :=
  match strides.find? (·.covers c) with
  | some s => s.move c
  | none => c

end Vigil.Text
