import Vigil.Number.Parts
import Vigil.Number.Reading

/-!
# How long the whole number of a double is

The greatest finite double has 309 digits before its point, far fewer than an integer may have
that is written.
-/

namespace Vigil.Number

theorem Parts.ofFloat_bound {x : Float} {negative : Bool} {m : Nat} {e : Int}
    (h : Parts.ofFloat x = .finite negative m e) : m < Nat.pow 2 53 ∧ e ≤ 971 := by
  unfold Parts.ofFloat at h
  simp only [beq_iff_eq, Nat.pow_eq] at h
  rw [Nat.pow_eq]
  generalize x.toBits.toNat = bits at h
  split at h
  · split at h <;> simp at h
  · split at h <;> simp only [Parts.finite.injEq] at h <;> omega

theorem floorScaled_lt {m a b : Nat} {e : Int} (hm : m < Nat.pow 2 a) (he : e ≤ b) :
    floorScaled m e < Nat.pow 2 (a + b) := by
  have hpow : 2 ^ e.toNat ≤ 2 ^ b := Nat.pow_le_pow_right (by omega) (by omega)
  rw [Nat.pow_eq] at hm ⊢
  calc floorScaled m e ≤ m * 2 ^ e.toNat := Nat.div_le_self _ _
    _ < 2 ^ a * 2 ^ b := Nat.mul_lt_mul_of_lt_of_le hm hpow (Nat.two_pow_pos _)
    _ = 2 ^ (a + b) := (Nat.pow_add 2 a b).symm

/-- The least number that is too long to be written. -/
theorem tooLongToWrite_pow : tooLongToWrite (Nat.pow 10 digitLimit : Nat) = true := by
  rw [tooLongToWrite, Int.natAbs_natCast]
  exact decide_eq_true (Nat.le_refl _)

/-- A number that takes few bits takes few digits. -/
theorem not_tooLongToWrite {n : Int} {bits : Nat} (h : n.natAbs < Nat.pow 2 bits)
    (hb : bits ≤ digitLimit) : tooLongToWrite n = false := by
  have room : 2 ^ bits ≤ 10 ^ digitLimit :=
    calc 2 ^ bits ≤ 10 ^ bits := Nat.pow_le_pow_left (by omega) _
      _ ≤ 10 ^ digitLimit := Nat.pow_le_pow_right (by omega) hb
  rw [tooLongToWrite, Nat.pow_eq]
  rw [Nat.pow_eq] at h
  generalize 10 ^ digitLimit = limit at room ⊢
  exact decide_eq_false (by omega)

/-- **The whole number of a double can always be written.** -/
theorem not_tooLongToWrite_of_truncate {x : Float} {n : Int} (h : truncate x = .ok n) :
    tooLongToWrite n = false := by
  unfold truncate at h
  split at h
  · cases h
  · cases h
  · rename_i negative m e hp
    obtain ⟨hm, he⟩ := Parts.ofFloat_bound hp
    have habs : n.natAbs = floorScaled m e := by
      simp only [Except.ok.injEq] at h
      split at h <;> omega
    have bound := floorScaled_lt hm he
    rw [← habs] at bound
    exact not_tooLongToWrite bound (by decide)

end Vigil.Number
