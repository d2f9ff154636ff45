import Mathlib.Algebra.Order.Field.Power
import Mathlib.Data.Rat.Floor
import Mathlib.Tactic.Linarith
import RasterAlgebra.Sample

/-!
# Exact values

Magnitudes and floats as rational numbers, so that what is computed from them can be told without saying
how it is computed: `Magnitude.toRat` is the fraction that a magnitude holds, `exactValue` the number that
a float is. A float loses its fraction by going to the next whole number towards zero
(`wholePart_eq_towardZero`).
-/

namespace RasterAlgebra

open Float.Model (UnpackedFloat)
open Float.Model.UnpackedFloat (Sign)

/-! ## Magnitudes -/

namespace Decimal.Magnitude

/-- The fraction as a rational number. -/
def toRat (x : Magnitude) : ℚ := x.num / x.den

theorem floor_toRat (x : Magnitude) : ⌊x.toRat⌋ = (x.num / x.den : ℕ) := by
  rw [toRat, Rat.floor_natCast_div_natCast, Int.natCast_div]

theorem den_ofBinary_pos (m : ℕ) (e : ℤ) : 0 < (ofBinary m e).den := by
  unfold ofBinary
  split
  · exact Nat.one_pos
  · exact Nat.two_pow_pos _

theorem toRat_ofBinary (m : ℕ) (e : ℤ) : (ofBinary m e).toRat = m * 2 ^ e := by
  unfold ofBinary
  split
  · rename_i he
    show ((m * 2 ^ e.toNat : ℕ) : ℚ) / (1 : ℕ) = m * 2 ^ e
    have hpow : (2 : ℚ) ^ e = 2 ^ e.toNat := by
      rw [← zpow_natCast, Int.toNat_of_nonneg he]
    rw [hpow]
    push_cast
    rw [div_one]
  · rename_i he
    show (m : ℚ) / (2 ^ (-e).toNat : ℕ) = m * 2 ^ e
    have hpow : (2 : ℚ) ^ e = (2 ^ (-e).toNat)⁻¹ := by
      rw [← zpow_natCast, Int.toNat_of_nonneg (by omega), zpow_neg, inv_inv]
    rw [hpow, div_eq_mul_inv]
    push_cast
    rfl

theorem den_scale_pos {x : Magnitude} (hx : 0 < x.den) (k : ℤ) : 0 < (x.scale k).den := by
  unfold scale
  split
  · exact hx
  · exact Nat.mul_pos hx (Nat.pow_pos (by decide))

theorem toRat_scale (x : Magnitude) (k : ℤ) : (x.scale k).toRat = x.toRat * 10 ^ k := by
  unfold scale
  split
  · rename_i hk
    show ((x.num * 10 ^ k.toNat : ℕ) : ℚ) / x.den = x.num / x.den * 10 ^ k
    have hpow : (10 : ℚ) ^ k = 10 ^ k.toNat := by
      rw [← zpow_natCast, Int.toNat_of_nonneg hk]
    rw [hpow]
    push_cast
    exact mul_div_right_comm _ _ _
  · rename_i hk
    show (x.num : ℚ) / (x.den * 10 ^ (-k).toNat : ℕ) = x.num / x.den * 10 ^ k
    have hpow : (10 : ℚ) ^ k = (10 ^ (-k).toNat)⁻¹ := by
      rw [← zpow_natCast, Int.toNat_of_nonneg (by omega), zpow_neg, inv_inv]
    rw [hpow]
    push_cast
    rw [div_mul_eq_div_div, div_eq_mul_inv (_ / _)]

end Decimal.Magnitude

/-! ## Floats -/

/-- The number that a float is, and zero for what is infinite or no number. -/
def exactValue : UnpackedFloat → ℚ
  | .finite sign m e _ => (sign.apply m : ℤ) * 2 ^ e
  | _ => 0

/-- The number that a sample is, zero if it is none. -/
def Sample.value (c : Sample) : ℚ := exactValue c.toModel.unpack

/-- The number that a scalar is, zero if it is none. -/
def Scalar.value (x : Scalar) : ℚ := exactValue x.toModel.unpack

/-- A number without its fraction: the next whole number towards zero. -/
def towardZero (q : ℚ) : ℤ := if 0 ≤ q then ⌊q⌋ else ⌈q⌉

theorem towardZero_neg (q : ℚ) : towardZero (-q) = -towardZero q := by
  unfold towardZero
  rcases lt_trichotomy q 0 with hq | rfl | hq
  · rw [if_pos (by linarith), if_neg (by linarith), Int.floor_neg]
  · simp
  · rw [if_neg (by linarith), if_pos hq.le, Int.ceil_neg]

theorem towardZero_intCast (n : ℤ) : towardZero n = n := by
  unfold towardZero
  split
  · exact Int.floor_intCast n
  · exact Int.ceil_intCast n

/-- The fraction of a float is dropped. -/
theorem wholePart_eq_towardZero (u : UnpackedFloat) : wholePart u = towardZero (exactValue u) := by
  cases u with
  | infinity | notANumber | zero => rfl
  | finite sign m e hm =>
    have hfloor : towardZero (m * 2 ^ e) =
        ((Decimal.Magnitude.ofBinary m e).num / (Decimal.Magnitude.ofBinary m e).den : ℕ) := by
      rw [towardZero, if_pos (by positivity), ← Decimal.Magnitude.toRat_ofBinary,
        Decimal.Magnitude.floor_toRat]
    cases sign with
    | positive =>
      show _ = towardZero ((m : ℤ) * 2 ^ e)
      exact hfloor.symm
    | negative =>
      show _ = towardZero ((-(m : ℤ) : ℤ) * 2 ^ e)
      rw [Int.cast_neg, Int.cast_natCast, neg_mul, towardZero_neg, hfloor]
      rfl

end RasterAlgebra
