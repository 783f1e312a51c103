import Vigil.Number.Nearest

/-!
# Integers that have a double

An integer of a thousand bits is far below the greatest double, so rounding it to the nearest one
cannot come to infinity: its exponent is at most 947, and what is left of it is rounded to a
mantissa of hardly more than 53 bits.

* `isSome_ofInt?`: such an integer has a double.
-/

namespace Vigil.Number

theorem roundDiv_le (num den : Nat) : roundDiv num den ≤ num / den + 1 := by
  unfold roundDiv
  dsimp only
  split <;> omega

/-- The exponent of a whole number is that of its first bit, less the bits of a mantissa. -/
theorem exponentFor_one (n : Nat) :
    (n.log2 : Int) - 53 ≤ exponentFor n 1 ∧
      (exponentFor n 1 ≤ (n.log2 : Int) - 52 ∨ exponentFor n 1 = -1074) := by
  have one : Nat.log2 1 = 0 := rfl
  unfold exponentFor
  simp only [one]
  split <;> omega

/-- What is left of a whole number at its exponent. -/
theorem div_exponentFor_le (n : Nat) :
    n * Nat.pow 2 (-exponentFor n 1).toNat / (1 * Nat.pow 2 (exponentFor n 1).toNat) ≤
      Nat.pow 2 54 := by
  have least := (exponentFor_one n).1
  generalize exponentFor n 1 = e at least ⊢
  simp only [Nat.pow_eq, Nat.one_mul]
  have top : n ≤ 2 ^ (n.log2 + 1) := Nat.le_of_lt Nat.lt_log2_self
  refine Nat.div_le_of_le_mul ?_
  calc n * 2 ^ (-e).toNat ≤ 2 ^ (n.log2 + 1) * 2 ^ (-e).toNat := Nat.mul_le_mul_right _ top
    _ = 2 ^ (n.log2 + 1 + (-e).toNat) := (Nat.pow_add _ _ _).symm
    _ ≤ 2 ^ (e.toNat + 54) := Nat.pow_le_pow_right (by decide) (by omega)
    _ = 2 ^ e.toNat * 2 ^ 54 := Nat.pow_add _ _ _

theorem nearestBits_lt {n bits : Nat} (h : n < Nat.pow 2 bits) (hb : bits ≤ 1000) :
    nearestBits n 1 < infinityBits := by
  by_cases hn : n = 0
  · rw [nearestBits, if_pos hn]
    decide
  · have few : n.log2 < bits := (Nat.log2_lt hn).mpr h
    have mantissa := Nat.le_trans (roundDiv_le (n * Nat.pow 2 (-exponentFor n 1).toNat)
      (1 * Nat.pow 2 (exponentFor n 1).toNat)) (Nat.succ_le_succ (div_exponentFor_le n))
    have exponent : (exponentFor n 1 + 1074).toNat ≤ 2021 := by
      have := (exponentFor_one n).2
      omega
    have scaled := Nat.mul_le_mul_right (Nat.pow 2 52) exponent
    rw [nearestBits, if_neg hn]
    dsimp only
    calc _ ≤ 2021 * Nat.pow 2 52 + (Nat.pow 2 54 + 1) := Nat.add_le_add scaled mantissa
      _ < infinityBits := by decide

/-- **An integer of a thousand bits has a double.** -/
theorem isSome_ofInt? {n : Int} {bits : Nat} (h : n.natAbs < Nat.pow 2 bits)
    (hb : bits ≤ 1000) : (ofInt? n).isSome := by
  rw [ofInt?, nearest?, if_pos (nearestBits_lt h hb)]
  rfl

end Vigil.Number
