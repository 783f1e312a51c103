import Mathlib
import Vigil.Proofs.Number.Truncate

/-!
# Doubles with their bits taken apart

The arithmetic of doubles is defined on their unpacked form, and every result of it is packed into
bits again. `Parts` reads the same bits, so that what is told of a result reaches the whole number
that is made of it.

* `Parts.ofFloat_eq`: the parts of a double are those of its unpacked form.
* `Canonical`: a mantissa of 53 bits, or of fewer at the least exponent.
* `unpack_pack`, `unpack_pack_of_large`: what is packed in that form is unpacked as it was, and is
  infinite where its exponent is too great.
-/

namespace Vigil.Number

open Float.Model (Format UnpackedFloat)
open Float.Model.UnpackedFloat

/-! ## The fields of the bits -/

section Fields

variable {b : BitVec Format.binary64.numBits}

theorem toNat_unpackMantissa : (unpackMantissa b).toNat = b.toNat % 2 ^ 52 := rfl

theorem toNat_unpackExponent : (unpackExponent b).toNat = b.toNat / 2 ^ 52 % 2048 := by
  rw [← Nat.shiftRight_eq_div_pow]
  rfl

theorem toNat_unpackSign : (unpackSign b).toNat = b.toNat / 2 ^ 63 % 2 := by
  rw [← Nat.shiftRight_eq_div_pow]
  rfl

theorem unpackMantissa_eq_zero_iff : unpackMantissa b = 0#52 ↔ b.toNat % 2 ^ 52 = 0 := by
  rw [← BitVec.toNat_inj, toNat_unpackMantissa]
  rfl

theorem unpackExponent_eq_iff (v : BitVec Format.binary64.exponentBits) :
    unpackExponent b = v ↔ b.toNat / 2 ^ 52 % 2048 = v.toNat := by
  rw [← BitVec.toNat_inj, toNat_unpackExponent]

theorem unpackSign_beq_negative :
    (Sign.ofBitVec (unpackSign b) == .negative) = (b.toNat / 2 ^ 63 == 1) := by
  have word : b.toNat < 2 ^ 64 := b.isLt
  have bit := toNat_unpackSign (b := b)
  rw [Nat.mod_eq_of_lt (by omega)] at bit
  rw [Sign.ofBitVec, ← bit]
  generalize unpackSign b = sign
  revert sign
  decide

/-- The bit in front of a mantissa that is full. -/
theorem toNat_one_append (v : BitVec 52) : (1#1 ++ v).toNat = 2 ^ 52 + v.toNat := by
  rw [BitVec.toNat_append, ← Nat.shiftLeft_add_eq_or_of_lt v.isLt]
  rfl

end Fields

/-! ## The parts of a double -/

/-- The parts of a double that is unpacked. -/
def Parts.ofUnpacked : UnpackedFloat → Parts
  | .notANumber => .nan
  | .infinity sign => .infinite (sign == .negative)
  | .zero sign => .finite (sign == .negative) 0 (-1074)
  | .finite sign mantissa exponent _ => .finite (sign == .negative) mantissa exponent

/-- **The parts of a double are those of its unpacked form.** -/
theorem Parts.ofFloat_eq (x : Float) : ofFloat x = ofUnpacked x.toModel.unpack := by
  unfold ofFloat Float.Model.unpack UnpackedFloat.unpack
  simp only [Nat.pow_eq, beq_iff_eq]
  have bits : x.toBits.toNat = x.toModel.toBits.toBitVec.toNat := rfl
  rw [bits, ← unpackSign_beq_negative]
  generalize x.toModel.toBits.toBitVec = b
  have top := unpackExponent_eq_iff (b := b) (-1#11)
  have bottom := unpackExponent_eq_iff (b := b) 0#11
  have bare := unpackMantissa_eq_zero_iff (b := b)
  by_cases special : b.toNat / 2 ^ 52 % 2048 = 2047
  · rw [if_pos special, if_pos (top.mpr special)]
    by_cases none : b.toNat % 2 ^ 52 = 0
    · rw [if_pos none, if_pos (bare.mpr none)]
      rfl
    · rw [if_neg none, if_neg (mt bare.mp none)]
      rfl
  · rw [if_neg special, if_neg (mt top.mp special)]
    by_cases least : b.toNat / 2 ^ 52 % 2048 = 0
    · rw [if_pos least, if_pos (bottom.mpr least)]
      by_cases none : b.toNat % 2 ^ 52 = 0
      · rw [dif_pos (bare.mpr none), none]
        rfl
      · have some := mt bare.mp none
        rw [dif_neg some, bottom.mpr least, ← toNat_unpackMantissa]
        rfl
    · rw [if_neg least, if_neg (mt bottom.mp least), ← toNat_unpackMantissa, ← toNat_one_append,
        ← toNat_unpackExponent]
      rfl

/-- A mantissa and an exponent as a double has them: with all its bits, or at the least exponent. -/
structure Canonical (mantissa : Nat) (exponent : Int) : Prop where
  narrow : mantissa < 2 ^ 53
  least : -1074 ≤ exponent
  full : exponent = -1074 ∨ 2 ^ 52 ≤ mantissa

theorem Parts.ofFloat_canonical {x : Float} {negative : Bool} {m : Nat} {e : Int}
    (h : ofFloat x = .finite negative m e) : Canonical m e := by
  suffices -1074 ≤ e ∧ (e = -1074 ∨ 2 ^ 52 ≤ m) from ⟨(ofFloat_bound h).1, this.1, this.2⟩
  unfold ofFloat at h
  simp only [beq_iff_eq, Nat.pow_eq] at h
  generalize x.toBits.toNat = bits at h
  split at h
  · split at h <;> simp at h
  · split at h <;> simp only [finite.injEq] at h <;> omega

/-- Neither NaN nor infinite. -/
def IsFinite : UnpackedFloat → Prop
  | .notANumber | .infinity _ => False
  | .zero _ | .finite .. => True

theorem isFinite_iff (x : Float) : isFinite x = true ↔ IsFinite x.toModel.unpack := by
  rw [isFinite, Parts.ofFloat_eq]
  cases x.toModel.unpack with
  | notANumber => exact ⟨nofun, False.elim⟩
  | infinity sign => exact ⟨nofun, False.elim⟩
  | zero sign => exact ⟨fun _ => trivial, fun _ => rfl⟩
  | finite sign m e hm => exact ⟨fun _ => trivial, fun _ => rfl⟩

/-- As a double can be. -/
def Proper : UnpackedFloat → Prop
  | .finite _ m e _ => Canonical m e ∧ e ≤ 971
  | _ => True

theorem proper_unpack (x : Float) : Proper x.toModel.unpack := by
  have parts := Parts.ofFloat_eq x
  cases h : x.toModel.unpack with
  | finite sign m e _ =>
    rw [h] at parts
    exact ⟨Parts.ofFloat_canonical parts, (Parts.ofFloat_bound parts).2⟩
  | _ => trivial

theorem Proper.neg {v : UnpackedFloat} (h : Proper v) : Proper v.neg := by
  cases v <;> exact h

/-! ## Packing -/

/-- The exponent in the bits. -/
theorem biased_exponent (e : Int) :
    (e + Format.binary64.exponentBias + (52 : Nat)).toNat = (e + 1075).toNat := by
  show (e + (1023 : Nat) + (52 : Nat)).toNat = _
  omega

/-- **What is packed is unpacked as it was.** -/
theorem unpack_pack (sign : Sign) {m : Nat} {e : Int} (h : 0 < m) (c : Canonical m e)
    (he : e ≤ 971) : (Float.Model.pack (.finite sign m e h)).unpack = .finite sign m e h := by
  have low := c.least
  have narrow := c.narrow
  have implicit : Format.binary64.mantissaBits = 53 := rfl
  have mantissa : (BitVec.ofNat 52 m).toNat = m % 2 ^ 52 := BitVec.toNat_ofNat _ _
  show unpack .binary64 (pack .binary64 (.finite sign m e h)) = _
  rw [pack]
  simp only [biased_exponent, implicit]
  rw [if_neg (show ¬2 ^ 11 ≤ _ by omega)]
  by_cases full : 2 ^ 52 ≤ m
  · have bits : m.log2 = 52 := (Nat.log2_eq_iff (by omega)).mpr ⟨full, narrow⟩
    have exponent : (BitVec.ofNat 11 (e + 1075).toNat).toNat = (e + 1075).toNat :=
      Nat.mod_eq_of_lt (by omega)
    have top : BitVec.ofNat 11 (e + 1075).toNat ≠ -1#11 := by
      rw [← BitVec.toNat_inj.ne, exponent]
      show _ ≠ 2047
      omega
    have bottom : BitVec.ofNat 11 (e + 1075).toNat ≠ 0#11 := by
      rw [← BitVec.toNat_inj.ne, exponent]
      show _ ≠ 0
      omega
    rw [if_pos (show m.log2 + 1 = 53 by omega)]
    simp only [unpack, unpackMantissa_packComponents, unpackExponent_packComponents,
      unpackSign_packComponents, Sign.ofBitVec_toBitVec, if_neg top, if_neg bottom, toNat_one_append, exponent, mantissa]
    congr 1
    · omega
    · show ((e + 1075).toNat : Int) - ((1023 : Nat) + (52 : Nat)) = e
      omega
  · have bits : m.log2 < 52 := (Nat.log2_lt (by omega)).mpr (by omega)
    have some : BitVec.ofNat 52 m ≠ 0#52 := by
      rw [← BitVec.toNat_inj.ne, mantissa]
      show _ ≠ 0
      omega
    rw [if_neg (show ¬m.log2 + 1 = 53 by omega)]
    simp only [unpack, unpackMantissa_packComponents, unpackExponent_packComponents,
      unpackSign_packComponents, Sign.ofBitVec_toBitVec]
    rw [if_neg (by decide), if_pos trivial, dif_neg some]
    congr 1
    · omega
    · show (0 : Int) - ((1023 : Nat) + (52 : Nat)) + 1 = e
      have := c.full
      omega

/-- **What is packed is infinite** where its exponent is too great. -/
theorem unpack_pack_of_large (sign : Sign) {m : Nat} {e : Int} (h : 0 < m) (he : 971 < e) :
    (Float.Model.pack (.finite sign m e h)).unpack = .infinity sign := by
  show unpack .binary64 (pack .binary64 (.finite sign m e h)) = _
  rw [pack]
  simp only [biased_exponent]
  rw [if_pos (show 2 ^ 11 ≤ _ by omega)]
  cases sign <;> rfl

theorem unpack_pack_zero (sign : Sign) : (Float.Model.pack (.zero sign)).unpack = .zero sign :=
  unpack_packedZero

end Vigil.Number
