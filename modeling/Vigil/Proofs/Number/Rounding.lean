import Vigil.Proofs.Number.Packed

/-!
# How far a number is rounded up

A result is rounded in two steps. The first one shifts its mantissa to 53 bits and rounds what was
cut off; the second one only shifts once more where the mantissa was rounded up to a bit more. The
exact number is `m · 2 ^ e`, a rational.

* `target`: the exponent a number is shifted to, so that `2 ^ target m e` is the unit of its last
  place.
* `round_cases`: what a number is rounded to is less than a unit of the last place above it.
* `target_le`: the unit of the last place of a number below a power of two.
-/

namespace Vigil.Number

open Float.Model (Format UnpackedFloat)
open Float.Model.UnpackedFloat

/-- The exponent at which a number has a mantissa of 53 bits, but no less than the least one. -/
def target (m : Nat) (e : Int) : Int := max (m.log2 + 1 + e - 53) (-1074)

/-- The unit of the last place of a number below a power of two. -/
theorem target_le {m : Nat} {e k : Int} (hm : m ≠ 0) (hk : -1021 ≤ k)
    (h : (m : ℚ) * 2 ^ e < 2 ^ k) : target m e ≤ k - 53 := by
  have least : (2 : ℚ) ^ m.log2 ≤ m := by exact_mod_cast Nat.log2_self_le hm
  have below : (2 : ℚ) ^ (m.log2 + e : Int) < 2 ^ k := by
    rw [zpow_add₀ two_ne_zero, zpow_natCast]
    exact lt_of_le_of_lt (mul_le_mul_of_nonneg_right least (by positivity)) h
  have := (zpow_lt_zpow_iff_right₀ one_lt_two).mp below
  unfold target
  omega

/-! ## The shifts -/

theorem mantissa_shift (em : ExtendedMantissa) (k : Nat) :
    (em >>> k).mantissa = em.mantissa / 2 ^ k := by
  induction k with
  | zero => exact (Nat.div_one _).symm
  | succ k ih =>
    show (em >>> k).mantissa / 2 = _
    rw [ih, Nat.div_div_eq_div_mul, Nat.pow_succ]

/-- What a number is shifted to. -/
theorem shiftToTarget_eq (m : Nat) (e : Int) :
    shiftToTargetExponent .binary64 m e .exact =
      (ExtendedMantissa.mk m false false >>> (target m e - e).toNat,
        e + (target m e - e).toNat) := rfl

/-- A mantissa that is not too long stays as it is. -/
theorem shiftToTarget_of_narrow {m : Nat} {e : Int} (narrow : m < 2 ^ 53) (least : -1074 ≤ e) :
    shiftToTargetExponent .binary64 m e .exact = (⟨m, false, false⟩, e) := by
  have bits : m.log2 ≤ 52 := by
    by_cases zero : m = 0
    · rw [zero]
      decide
    · have := (Nat.log2_lt zero).mpr narrow
      omega
  have none : (target m e - e).toNat = 0 := by
    unfold target
    omega
  rw [shiftToTarget_eq, none]
  exact congrArg (Prod.mk _) (Int.add_zero e)

/-- A mantissa that was rounded up to a bit more is shifted by that bit. -/
theorem shiftToTarget_of_full {e : Int} (least : -1074 ≤ e) :
    shiftToTargetExponent .binary64 (2 ^ 53) e .exact = (⟨2 ^ 52, false, false⟩, e + 1) := by
  have one : (target (2 ^ 53) e - e).toNat = 1 := by
    unfold target
    rw [Nat.log2_two_pow]
    omega
  rw [shiftToTarget_eq, one]
  rfl

/-! ## The first step -/

/-- What is cut off moves the mantissa up by one at most. -/
theorem roundedMantissa_bounds (em : ExtendedMantissa) :
    em.mantissa ≤ em.roundedMantissa ∧ em.roundedMantissa ≤ em.mantissa + 1 := by
  unfold ExtendedMantissa.roundedMantissa
  cases em.accuracy with
  | exact => exact ⟨Nat.le_refl _, Nat.le_succ _⟩
  | inexact side => cases side <;> simp only [Accuracy.roundToNearestEven] <;> omega

/-- The mantissa after the shift, rounded. -/
def rounded (m : Nat) (e : Int) : Nat :=
  (ExtendedMantissa.mk m false false >>> (target m e - e).toNat).roundedMantissa

theorem rounded_bounds (m : Nat) (e : Int) :
    m / 2 ^ (target m e - e).toNat ≤ rounded m e ∧
      rounded m e ≤ m / 2 ^ (target m e - e).toNat + 1 := by
  have bounds := roundedMantissa_bounds
    (ExtendedMantissa.mk m false false >>> (target m e - e).toNat)
  rwa [mantissa_shift] at bounds

theorem rounded_le (m : Nat) (e : Int) : rounded m e ≤ 2 ^ 53 := by
  have short : m / 2 ^ (target m e - e).toNat < 2 ^ 53 := by
    rw [Nat.div_lt_iff_lt_mul (Nat.two_pow_pos _), ← Nat.pow_add]
    refine Nat.lt_of_lt_of_le Nat.lt_log2_self (Nat.pow_le_pow_right (by decide) ?_)
    unfold target
    omega
  exact Nat.le_trans (rounded_bounds m e).2 short

theorem rounded_full {m : Nat} {e : Int} (h : target m e ≠ -1074) (hm : m ≠ 0)
    (he : e ≤ target m e) : 2 ^ 52 ≤ rounded m e := by
  refine Nat.le_trans ?_ (rounded_bounds m e).1
  rw [Nat.le_div_iff_mul_le (Nat.two_pow_pos _), ← Nat.pow_add]
  refine Nat.le_trans (Nat.pow_le_pow_right (by decide) ?_) (Nat.log2_self_le hm)
  unfold target at *
  omega

/-- Rounding up adds a unit of the last place at most. -/
theorem rounded_value_le {m : Nat} {e : Int} (he : e ≤ target m e) :
    (rounded m e : ℚ) * 2 ^ target m e ≤ m * 2 ^ e + 2 ^ target m e := by
  obtain ⟨k, hk⟩ := Int.eq_ofNat_of_zero_le (Int.sub_nonneg.mpr he)
  have up := (rounded_bounds m e).2
  rw [hk, Int.toNat_natCast] at up
  have scaled : rounded m e * 2 ^ k ≤ m + 2 ^ k :=
    calc rounded m e * 2 ^ k ≤ (m / 2 ^ k + 1) * 2 ^ k := Nat.mul_le_mul_right _ up
      _ = m / 2 ^ k * 2 ^ k + 2 ^ k := Nat.succ_mul _ _
      _ ≤ m + 2 ^ k := Nat.add_le_add_right (Nat.div_mul_le_self _ _) _
  have there : (2 : ℚ) ^ target m e = 2 ^ k * 2 ^ e := by
    rw [← zpow_natCast, ← zpow_add₀ two_ne_zero, ← hk, Int.sub_add_cancel]
  calc (rounded m e : ℚ) * 2 ^ target m e = (rounded m e * 2 ^ k) * 2 ^ e := by
        rw [there, mul_assoc]
    _ ≤ (m + 2 ^ k) * 2 ^ e := by
        refine mul_le_mul_of_nonneg_right ?_ (by positivity)
        exact_mod_cast scaled
    _ = m * 2 ^ e + 2 ^ target m e := by rw [there, add_mul]

/-! ## Both steps -/

/-- The second step takes the mantissa that the first one came to. -/
theorem round_eq (sign : Sign) {m : Nat} {e : Int} (he : e ≤ target m e) :
    roundWithAccuracy .binary64 sign m e .exact =
      let last := shiftToTargetExponent .binary64 (rounded m e) (target m e) .exact
      if h : last.1.mantissa = 0 then .zero sign
      else .finite sign last.1.mantissa last.2 (Nat.pos_of_ne_zero h) := by
  have first : shiftToTargetExponent .binary64 m e .exact =
      (ExtendedMantissa.mk m false false >>> (target m e - e).toNat, target m e) := by
    rw [shiftToTarget_eq]
    congr 1
    omega
  rw [roundWithAccuracy, first]
  rfl

/-- **A rounded number** is zero, or has a mantissa and an exponent as a double has them, and is at
most a unit of the last place above the exact one. -/
theorem round_cases (sign : Sign) {m : Nat} {e : Int} (hm : m ≠ 0) (he : e ≤ target m e) :
    roundWithAccuracy .binary64 sign m e .exact = .zero sign ∨
      ∃ m' e' h, roundWithAccuracy .binary64 sign m e .exact = .finite sign m' e' h ∧
        Canonical m' e' ∧ e' ≤ target m e + 1 ∧
        (m' : ℚ) * 2 ^ e' ≤ m * 2 ^ e + 2 ^ target m e := by
  have least : -1074 ≤ target m e := le_max_right _ _
  have value := rounded_value_le he
  rw [round_eq sign he]
  by_cases narrow : rounded m e < 2 ^ 53
  · rw [shiftToTarget_of_narrow narrow least]
    by_cases zero : rounded m e = 0
    · exact .inl (dif_pos zero)
    · have full := or_iff_not_imp_left.mpr fun h => rounded_full h hm he
      exact .inr ⟨_, _, Nat.pos_of_ne_zero zero, dif_neg zero, ⟨narrow, least, full⟩,
        Int.le_add_one (Int.le_refl _), value⟩
  · have top : rounded m e = 2 ^ 53 := Nat.le_antisymm (rounded_le m e) (Nat.le_of_not_lt narrow)
    rw [top] at value ⊢
    rw [shiftToTarget_of_full least]
    refine .inr ⟨2 ^ 52, _, by decide, rfl, ⟨by decide, Int.le_add_one least, .inr (Nat.le_refl _)⟩,
      Int.le_refl _, ?_⟩
    rw [zpow_add_one₀ two_ne_zero]
    push_cast at value ⊢
    linarith

end Vigil.Number
