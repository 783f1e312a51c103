import Vigil.Proofs.Number.Rounding

/-!
# What the result of an operation is at most

A bound on a double that an operation comes to, from bounds on what it was made of. The bounds are
rationals, and grow by the unit of the last place at each operation. NaN is at most nothing, and
negative infinity at most anything, so that a bound on a result needs none from below on its parts.

* `AtMost.add`, `AtMost.mul`: a sum, and a product with a positive number.
* `AtMost.of_le`: a finite double below another one is at most what that stands for.
* `truncate_le`: the whole number of a double is at most what the double is at most.
-/

namespace Vigil.Number

open Float.Model (Format UnpackedFloat)
open Float.Model.UnpackedFloat

/-- The number a finite double stands for. -/
def value : UnpackedFloat → ℚ
  | .finite sign m e _ => sign.apply m * 2 ^ e
  | _ => 0

/-- At most a number: neither NaN nor positive infinity. -/
def AtMost (q : ℚ) : UnpackedFloat → Prop
  | .notANumber => False
  | .infinity sign => sign = .negative
  | u => value u ≤ q

/-- A number from zero to a power of two that a double can be, with a normal unit of the last
place. -/
structure Below (k : Int) (q : ℚ) : Prop where
  nonneg : 0 ≤ q
  low : -1021 ≤ k
  high : k ≤ 1023
  lt : q < 2 ^ k

variable {p q : ℚ} {k : Int} {u v : UnpackedFloat}

theorem value_positive (m : Nat) (e : Int) (hm : 0 < m) :
    value (.finite .positive m e hm) = m * 2 ^ e := rfl

theorem value_negative (m : Nat) (e : Int) (hm : 0 < m) :
    value (.finite .negative m e hm) = -(m * 2 ^ e) := by
  show ((-m : Int) : ℚ) * 2 ^ e = _
  rw [Int.cast_neg, neg_mul]
  rfl

theorem AtMost.mono (h : AtMost p u) (le : p ≤ q) : AtMost q u := by
  cases u with
  | notANumber => exact h
  | infinity sign => exact h
  | zero sign => exact le_trans h le
  | finite sign m e hm => exact le_trans h le

theorem AtMost.of_isFinite (h : IsFinite u) : AtMost (value u) u := by
  cases u with
  | notANumber => exact h
  | infinity sign => exact h.elim
  | zero sign => exact le_refl _
  | finite sign m e hm => exact le_refl _

theorem IsFinite.atMost_neg (h : IsFinite v) : AtMost (-value v) v.neg := by
  cases v with
  | notANumber => exact h
  | infinity sign => exact h.elim
  | zero sign => exact le_of_eq neg_zero.symm
  | finite sign m e hm =>
    cases sign with
    | negative =>
      rw [value_negative, neg_neg]
      exact le_refl _
    | positive =>
      rw [value_positive]
      exact le_of_eq (value_negative m e hm)

/-! ## What is packed -/

theorem atMost_pack (proper : Proper u) (h : AtMost q u) :
    AtMost q (Float.Model.pack u).unpack := by
  cases u with
  | notANumber => exact h
  | infinity sign =>
    cases sign with
    | negative => rfl
    | positive => cases h
  | zero sign => cases sign <;> exact h
  | finite sign m e hm =>
    rw [unpack_pack sign hm proper.1 proper.2]
    exact h

theorem atMost_pack_bottom (q : ℚ) : AtMost q (Float.Model.pack (.infinity .negative)).unpack := rfl

theorem atMost_pack_zero (sign : Sign) (hq : 0 ≤ q) :
    AtMost q (Float.Model.pack (.zero sign)).unpack := by
  cases sign <;> exact hq

/-- A negative result is at most any number that is not negative, however great it is. -/
theorem atMost_pack_negative {m : Nat} {e : Int} (hm : 0 < m) (c : Canonical m e) (hq : 0 ≤ q) :
    AtMost q (Float.Model.pack (.finite .negative m e hm)).unpack := by
  by_cases fits : e ≤ 971
  · rw [unpack_pack _ hm c fits]
    have magnitude : (0 : ℚ) ≤ m * 2 ^ e := by positivity
    exact ((value_negative m e hm).trans_le (neg_nonpos.mpr magnitude)).trans hq
  · rw [unpack_pack_of_large _ hm (Int.lt_of_not_ge fits)]
    rfl

/-! ## Rounding -/

/-- **Rounding adds a unit of the last place at most**, and that of a result below a power of two is
53 powers less. -/
theorem atMost_round (sign : Sign) {m : Nat} {e : Int} (hm : m ≠ 0) (he : e ≤ target m e)
    (below : Below k q) (le : (sign.apply m : ℚ) * 2 ^ e ≤ q) :
    AtMost (q + 2 ^ (k - 53))
      (Float.Model.pack (roundWithAccuracy .binary64 sign m e .exact)).unpack := by
  have more : 0 ≤ q + 2 ^ (k - 53) := add_nonneg below.nonneg (by positivity)
  rcases round_cases sign hm he with h | ⟨m', e', hm', h, c, top, near⟩
  · rw [h]
    exact atMost_pack_zero sign more
  · rw [h]
    cases sign with
    | negative => exact atMost_pack_negative hm' c more
    | positive =>
      have le : (m : ℚ) * 2 ^ e ≤ q := le
      have last := target_le hm below.low (lt_of_le_of_lt le below.lt)
      have high := below.high
      have unit : (2 : ℚ) ^ target m e ≤ 2 ^ (k - 53) := zpow_le_zpow_right₀ one_le_two last
      rw [unpack_pack _ hm' c (by omega)]
      exact near.trans (add_le_add le unit)

theorem log2_shiftLeft {m : Nat} (hm : m ≠ 0) (i : Nat) : (m <<< i).log2 = m.log2 + i := by
  have shifted : m * 2 ^ i ≠ 0 := Nat.mul_ne_zero hm (Nat.two_pow_pos i).ne'
  rw [Nat.shiftLeft_eq, Nat.log2_eq_iff shifted]
  have low := Nat.mul_le_mul_right (2 ^ i) (Nat.log2_self_le hm)
  have high := Nat.mul_lt_mul_of_pos_right (Nat.lt_log2_self (n := m)) (Nat.two_pow_pos i)
  rw [← Nat.pow_add] at low high
  exact ⟨low, by rwa [Nat.add_right_comm]⟩

/-- A shift to the left only changes how a number is written. -/
theorem apply_shiftLeft (sign : Sign) (m i : Nat) (e : Int) :
    (sign.apply (m <<< i : Nat) : ℚ) * 2 ^ (e - i) = sign.apply m * 2 ^ e := by
  have same : ((m <<< i : Nat) : ℚ) * 2 ^ (e - i) = m * 2 ^ e := by
    rw [Nat.shiftLeft_eq, zpow_sub₀ two_ne_zero, zpow_natCast]
    push_cast
    rw [mul_assoc, mul_div_cancel₀ _ (by positivity)]
  cases sign with
  | negative =>
    simp only [Sign.apply, Int.cast_neg, Int.cast_natCast, neg_mul]
    rw [same]
  | positive => exact same

/-- The same for a number that may have too few bits at first. -/
theorem atMost_round_short (sign : Sign) {m : Nat} {e : Int} (hm : m ≠ 0) (below : Below k q)
    (le : (sign.apply m : ℚ) * 2 ^ e ≤ q) :
    AtMost (q + 2 ^ (k - 53)) (Float.Model.pack (round .binary64 sign m e)).unpack := by
  have rounds : round .binary64 sign m e = roundWithAccuracy .binary64 sign
      (m <<< (e - target m e).toNat) (e - (e - target m e).toNat) .exact := rfl
  generalize hi : (e - target m e).toNat = i at rounds
  have bits := log2_shiftLeft hm i
  rw [rounds]
  refine atMost_round sign ?_ ?_ below ((apply_shiftLeft sign m i e).trans_le le)
  · rw [Nat.shiftLeft_eq]
    exact Nat.mul_ne_zero hm (Nat.two_pow_pos i).ne'
  · unfold target at *
    omega

theorem atMost_normalize {m : Int} {e : Int} (sign : Sign) (below : Below k q)
    (le : (m : ℚ) * 2 ^ e ≤ q) :
    AtMost (q + 2 ^ (k - 53))
      (Float.Model.pack (UnpackedFloat.normalize .binary64 m e sign)).unpack := by
  unfold UnpackedFloat.normalize
  split
  · rename_i h
    have negative := Int.compare_eq_lt.mp h
    have same : Sign.negative.apply ((-m).toNat : Int) = m := by
      show -((-m).toNat : Int) = m
      omega
    exact atMost_round_short .negative (by omega) below (by rwa [same])
  · exact atMost_pack_zero sign (add_nonneg below.nonneg (by positivity))
  · rename_i h
    have positive := Int.compare_eq_gt.mp h
    have same : Sign.positive.apply (m.toNat : Int) = m := by
      show (m.toNat : Int) = m
      omega
    exact atMost_round_short .positive (by omega) below (by rwa [same])

/-! ## Sums -/

theorem apply_decreaseExponent (sign : Sign) (m : Nat) {e least : Int} (h : least ≤ e) :
    (sign.apply (decreaseExponent m e least).1 : ℚ) * 2 ^ least = sign.apply m * 2 ^ e := by
  have same := apply_shiftLeft sign m (e - least).toNat e
  rwa [show e - ((e - least).toNat : Int) = least by omega] at same

/-- A sum with negative infinity is negative infinity again, but for NaN and the other infinity. -/
theorem AtMost.add_bottom (hu : AtMost p u) (q : ℚ) :
    AtMost q (Float.Model.pack (add .binary64 u (.infinity .negative))).unpack := by
  cases u with
  | notANumber => exact hu.elim
  | infinity sign =>
    obtain rfl : sign = .negative := hu
    exact atMost_pack_bottom q
  | _ => exact atMost_pack_bottom q

/-- **A sum** is at most a unit of the last place above the exact one. -/
theorem AtMost.add (hu : AtMost p u) (hv : AtMost q v) (pu : Proper u) (pv : Proper v)
    (below : Below k (p + q)) :
    AtMost (p + q + 2 ^ (k - 53)) (Float.Model.pack (add .binary64 u v)).unpack := by
  have more := below.nonneg
  have unit : (0 : ℚ) < 2 ^ (k - 53) := by positivity
  cases v with
  | notANumber => exact hv.elim
  | infinity sign =>
    obtain rfl : sign = .negative := hv
    exact hu.add_bottom _
  | zero sign =>
    have hq : 0 ≤ q := hv
    cases u with
    | notANumber => exact hu.elim
    | infinity sign =>
      obtain rfl : sign = .negative := hu
      exact atMost_pack_bottom _
    | zero sign' =>
      simp only [UnpackedFloat.add]
      split <;> exact atMost_pack_zero _ (by linarith)
    | finite _ _ _ _ => exact atMost_pack pu (hu.mono (by linarith))
  | finite sign m e hm =>
    cases u with
    | notANumber => exact hu.elim
    | infinity sign =>
      obtain rfl : sign = .negative := hu
      exact atMost_pack_bottom _
    | zero _ =>
      have hp : 0 ≤ p := hu
      exact atMost_pack pv (hv.mono (by linarith))
    | finite sign' m' e' hm' =>
      refine atMost_normalize .positive below ?_
      have left := apply_decreaseExponent sign' m' (min_le_left e' e)
      have right := apply_decreaseExponent sign m (min_le_right e' e)
      rw [Int.cast_add, add_mul]
      exact add_le_add (left.trans_le hu) (right.trans_le hv)

/-- A difference is the sum with the opposite. -/
theorem sub_eq_add (u v : UnpackedFloat) : sub .binary64 u v = add .binary64 u v.neg := by
  cases u with
  | finite sign m e hm =>
    cases v with
    | finite sign' m' e' hm' =>
      cases sign' with
      | negative =>
        simp only [UnpackedFloat.sub, UnpackedFloat.add, UnpackedFloat.neg, Sign.apply, Int.sub_neg]
      | positive => rfl
    | _ => rfl
  | _ => cases v <;> rfl

/-! ## Products -/

/-- A product with a number of enough bits is rounded at once. -/
theorem mul_finite (sign : Sign) {m n : Nat} (hm : 0 < m) (hn : 0 < n) (e i : Int)
    (wide : 2 ^ 52 ≤ n) :
    mul .binary64 (.finite sign m e hm) (.finite .positive n i hn) =
        roundWithAccuracy .binary64 (sign * .positive) (m * n) (e + i) .exact ∧
      m * n ≠ 0 ∧ e + i ≤ target (m * n) (e + i) := by
  have some : m * n ≠ 0 := Nat.mul_ne_zero hm.ne' hn.ne'
  have bits : 52 ≤ (m * n).log2 :=
    (Nat.le_log2 some).mpr (Nat.le_trans wide (Nat.le_mul_of_pos_left n hm))
  refine ⟨rfl, some, ?_⟩
  unfold target
  omega

/-- **A product** with a positive number is at most a unit of the last place above the exact one. -/
theorem AtMost.mul {n : Nat} {i : Int} (hu : AtMost p u) (hn : 0 < n) (wide : 2 ^ 52 ≤ n)
    (below : Below k (p * (n * 2 ^ i))) :
    AtMost (p * (n * 2 ^ i) + 2 ^ (k - 53))
      (Float.Model.pack (mul .binary64 u (.finite .positive n i hn))).unpack := by
  cases u with
  | notANumber => exact hu.elim
  | infinity sign =>
    obtain rfl : sign = .negative := hu
    exact atMost_pack_bottom _
  | zero sign => exact atMost_pack_zero _ (add_nonneg below.nonneg (by positivity))
  | finite sign m e hm =>
    obtain ⟨rounds, some, room⟩ := mul_finite sign hm hn e i wide
    rw [rounds]
    refine atMost_round _ some room below ?_
    have same : ((sign * .positive).apply (m * n : Nat) : ℚ) * 2 ^ (e + i) =
        (sign.apply m * 2 ^ e) * (n * 2 ^ i) := by
      rw [zpow_add₀ two_ne_zero]
      cases sign with
      | negative =>
        show ((-(m * n : Nat) : Int) : ℚ) * _ = ((-m : Int) : ℚ) * _ * _
        push_cast
        ring
      | positive =>
        show (((m * n : Nat) : Int) : ℚ) * _ = ((m : Int) : ℚ) * _ * _
        push_cast
        ring
    exact same.trans_le (mul_le_mul_of_nonneg_right hu (by positivity))

/-- A product of numbers is a number, or too large for one. -/
theorem mul_ne_notANumber {n : Nat} {i : Int} (h : IsFinite u) (hn : 0 < n) (wide : 2 ^ 52 ≤ n) :
    (Float.Model.pack (mul .binary64 u (.finite .positive n i hn))).unpack ≠ .notANumber := by
  cases u with
  | notANumber => exact h.elim
  | infinity sign => exact h.elim
  | zero sign =>
    show (Float.Model.pack (.zero (sign * .positive))).unpack ≠ _
    rw [unpack_pack_zero]
    exact nofun
  | finite sign m e hm =>
    obtain ⟨rounds, some, room⟩ := mul_finite sign hm hn e i wide
    rw [rounds]
    rcases round_cases (sign * .positive) some room with h | ⟨m', e', hm', h, c, -, -⟩
    · rw [h, unpack_pack_zero]
      exact nofun
    · rw [h]
      by_cases fits : e' ≤ 971
      · rw [unpack_pack _ hm' c fits]
        exact nofun
      · rw [unpack_pack_of_large _ hm' (Int.lt_of_not_ge fits)]
        exact nofun

/-! ## Order -/

/-- The order by exponent and then by mantissa is that of the numbers. -/
theorem magnitude_le {m m' : Nat} {e e' : Int} (c : Canonical m e) (c' : Canonical m' e')
    (h : ((compare e e').then (compare m m')).isLE = true) : (m : ℚ) * 2 ^ e ≤ m' * 2 ^ e' := by
  rcases lt_trichotomy e e' with below | rfl | above
  · -- The greater exponent is not the least one, so that its mantissa is full.
    have full : 2 ^ 52 ≤ m' := c'.full.resolve_left (by have := c.least; omega)
    have narrow : (m : ℚ) ≤ 2 ^ 53 := by exact_mod_cast c.narrow.le
    have full : (2 : ℚ) ^ 52 ≤ m' := by exact_mod_cast full
    calc (m : ℚ) * 2 ^ e ≤ 2 ^ 53 * 2 ^ e := mul_le_mul_of_nonneg_right narrow (by positivity)
      _ = 2 ^ 52 * 2 ^ (e + 1) := by rw [zpow_add_one₀ two_ne_zero]; ring
      _ ≤ 2 ^ 52 * 2 ^ e' :=
          mul_le_mul_of_nonneg_left (zpow_le_zpow_right₀ one_le_two below) (by positivity)
      _ ≤ m' * 2 ^ e' := mul_le_mul_of_nonneg_right full (by positivity)
  · rw [Std.compare_self, Ordering.then] at h
    have le : m ≤ m' := Nat.isLE_compare.mp h
    exact mul_le_mul_of_nonneg_right (by exact_mod_cast le) (by positivity)
  · rw [Int.compare_eq_gt.mpr above] at h
    cases h

/-- **The order of finite doubles** is that of the numbers they stand for. -/
theorem value_le (hu : IsFinite u) (hv : IsFinite v) (pu : Proper u) (pv : Proper v)
    (h : u.le v = true) : value u ≤ value v := by
  have magnitude (m : Nat) (e : Int) : (0 : ℚ) ≤ m * 2 ^ e := by positivity
  cases u with
  | notANumber => exact hu.elim
  | infinity sign => exact hu.elim
  | zero sign =>
    cases v with
    | notANumber => exact hv.elim
    | infinity sign => exact hv.elim
    | zero sign => exact le_refl _
    | finite sign' m' e' hm' =>
      cases sign' with
      | negative => cases h
      | positive => exact magnitude m' e'
  | finite sign m e hm =>
    cases v with
    | notANumber => exact hv.elim
    | infinity sign => exact hv.elim
    | zero sign' =>
      cases sign with
      | positive => cases h
      | negative =>
        rw [value_negative]
        exact neg_nonpos.mpr (magnitude m e)
    | finite sign' m' e' hm' =>
      cases sign with
      | positive =>
        cases sign' with
        | positive => exact magnitude_le pu.1 pv.1 h
        | negative => cases h
      | negative =>
        rw [value_negative]
        cases sign' with
        | positive => exact (neg_nonpos.mpr (magnitude m e)).trans (magnitude m' e')
        | negative =>
          rw [value_negative]
          refine neg_le_neg (magnitude_le pv.1 pu.1 ?_)
          have h : ((compare e e').then (compare m m')).swap.isLE = true := h
          rwa [Ordering.swap_then, Int.compare_swap, Nat.compare_swap] at h

theorem value_le_of_le {x y : Float} (hx : isFinite x = true) (hy : isFinite y = true)
    (h : x ≤ y) : value x.toModel.unpack ≤ value y.toModel.unpack := by
  have le : x.toModel.unpack.le y.toModel.unpack = true := of_decide_eq_true h
  exact value_le ((isFinite_iff x).mp hx) ((isFinite_iff y).mp hy) (proper_unpack x)
    (proper_unpack y) le

theorem AtMost.of_le {x y : Float} (hx : isFinite x = true) (hy : isFinite y = true)
    (h : x ≤ y) : AtMost (value y.toModel.unpack) x.toModel.unpack :=
  (AtMost.of_isFinite ((isFinite_iff x).mp hx)).mono (value_le_of_le hx hy h)

/-! ## Whole numbers -/

theorem floorScaled_le (m : Nat) (e : Int) : (floorScaled m e : ℚ) ≤ m * 2 ^ e := by
  unfold floorScaled
  simp only [Nat.pow_eq]
  refine Nat.cast_div_le.trans (le_of_eq ?_)
  have split : (2 : ℚ) ^ e = 2 ^ e.toNat / 2 ^ (-e).toNat := by
    rw [← zpow_natCast, ← zpow_natCast, ← zpow_sub₀ two_ne_zero]
    congr 1
    omega
  push_cast
  rw [split, mul_div_assoc]

/-- A double that is at most a number is negative, or its parts are at most it. -/
theorem AtMost.parts {negative : Bool} {m : Nat} {e : Int} (h : AtMost q u) (hq : 0 ≤ q)
    (parts : Parts.ofUnpacked u = .finite negative m e) :
    negative = true ∨ (m : ℚ) * 2 ^ e ≤ q := by
  cases u with
  | notANumber => cases parts
  | infinity sign => cases parts
  | zero sign =>
    cases parts
    rw [Nat.cast_zero, zero_mul]
    exact .inr hq
  | finite sign m e hm =>
    cases parts
    cases sign with
    | negative => exact .inl rfl
    | positive => exact .inr h

/-- **The whole number of what is at most a number** is at most it, too. -/
theorem truncate_le {x : Float} {n : Int} (h : AtMost q x.toModel.unpack) (hq : 0 ≤ q)
    (whole : truncate x = .ok n) : (n : ℚ) ≤ q := by
  unfold truncate at whole
  split at whole
  · cases whole
  · cases whole
  · rename_i negative m e parts
    obtain rfl := Except.ok.inj whole
    have floor := floorScaled_le m e
    split
    · rw [Int.cast_neg]
      exact (neg_nonpos.mpr (Nat.cast_nonneg _)).trans hq
    · rename_i positive
      exact floor.trans ((h.parts hq ((Parts.ofFloat_eq x).symm.trans parts)).resolve_left positive)

theorem unpack_of_truncate {x : Float} (h : truncate x = .error .notANumber) :
    x.toModel.unpack = .notANumber := by
  rw [truncate, Parts.ofFloat_eq] at h
  cases hx : x.toModel.unpack with
  | notANumber => rfl
  | _ =>
    rw [hx] at h
    cases h

/-- A whole number of 85 bits or more has no bit among its last 32: the mantissa of a double has 53
bits only. -/
theorem dvd_of_truncate {x : Float} {n : Int} (h : truncate x = .ok n) (long : 2 ^ 84 ≤ n) :
    2 ^ 32 ∣ n := by
  unfold truncate at h
  split at h
  · cases h
  · cases h
  · rename_i negative m e parts
    obtain ⟨narrow, -⟩ := Parts.ofFloat_bound parts
    obtain rfl := Except.ok.inj h
    rw [Nat.pow_eq] at narrow
    have magnitude : 2 ^ 84 ≤ floorScaled m e := by
      split at long <;> omega
    have high : 32 ≤ e := by
      by_contra low
      have small := floorScaled_lt (a := 53) (b := 31) narrow (show e ≤ (31 : Nat) by omega)
      rw [Nat.pow_eq] at small
      omega
    have turns : 2 ^ 32 ∣ floorScaled m e := by
      rw [floorScaled, show (-e).toNat = 0 by omega, show e.toNat = 32 + (e.toNat - 32) by omega]
      simp only [Nat.pow_eq, Nat.pow_add, Nat.pow_zero, Nat.div_one]
      exact Dvd.dvd.mul_left (Dvd.intro _ rfl) m
    have turns : (2 ^ 32 : Int) ∣ (floorScaled m e : Int) := by exact_mod_cast turns
    split
    · exact Int.dvd_neg.mpr turns
    · exact turns

end Vigil.Number
