import RasterAlgebra.Proofs.Number.Equality
import RasterAlgebra.Proofs.Number.Reading

/-!
# Samples as scalars

Every sample is a scalar: its mantissa with zeros behind it has its place in the wider format, and so has its
exponent. So a sample that leaves its grid as a scalar comes back as the same sample (`ofScalar_toScalar`).
-/

namespace RasterAlgebra

open Float.Model (Format UnpackedFloat)
open Float.Model.UnpackedFloat

variable {c : Sample} {sign : Sign} {m : ℕ} {e : ℤ} {hm : 0 < m}

/-- The parts of a scalar that are those of a finite sample, the mantissa with zeros behind it. -/
theorem Sample.exists_unpack_toScalar (h : c.toModel.unpack = .finite sign m e hm) :
    ∃ (rest : ℕ) (hfilled : 0 < m * 2 ^ rest),
      c.toScalar.toModel.unpack = .finite sign (m * 2 ^ rest) (e - rest) hfilled ∧
      ((m * 2 ^ rest : ℕ) : ℚ) * 2 ^ (e - rest) = m * 2 ^ e := by
  have hcanonical := Sample.canonical h
  have hlt : m < 2 ^ 24 := hcanonical.mantissa_lt
  have hmin : -149 ≤ e := hcanonical.min_le
  have hmax : e ≤ 104 := hcanonical.le_max
  have hlog := (Nat.log2_lt hm.ne').mpr hlt
  obtain ⟨rest, hrest, hbits, hmantissa⟩ := exists_filled hm (by omega : m < 2 ^ 53)
  have hfilled : 0 < m * 2 ^ rest := Nat.mul_pos hm (Nat.two_pow_pos rest)
  have hwide : Canonical .binary64 (m * 2 ^ rest) (e - rest) := by
    refine ⟨hmantissa, ?_, .inl hbits, ?_⟩
    · show (-1074 : ℤ) ≤ e - rest
      omega
    · show e - rest ≤ (971 : ℤ)
      omega
  have hvalue : ((m * 2 ^ rest : ℕ) : ℚ) * 2 ^ (e - rest) = m * 2 ^ e := by
    rw [zpow_sub₀ (two_ne_zero' ℚ), zpow_natCast]
    push_cast
    field_simp
  have hround : UnpackedFloat.round .binary64 sign m e =
      .finite sign (m * 2 ^ rest) (e - rest) hfilled := by
    refine round_of_roundsTo hwide hfilled hm ?_ sign
    rw [← hvalue]
    exact roundsTo_self .binary64 _ _
  refine ⟨rest, hfilled, ?_, hvalue⟩
  unfold toScalar
  simp only [h, hround]
  exact Scalar.unpack_ofModel_pack hwide sign hfilled

/-- A sample that has become a scalar is read back without rounding. -/
theorem Sample.ofScalar_toScalar (c : Sample) : ofScalar c.toScalar = c := by
  have hpack := c.ofModel_pack_unpack
  unfold ofScalar
  cases hunpack : c.toModel.unpack with
  | finite sign m e hm =>
    obtain ⟨rest, hfilled, hscalar, hvalue⟩ := exists_unpack_toScalar hunpack
    have hround : UnpackedFloat.round .binary32 sign (m * 2 ^ rest) (e - rest) = .finite sign m e hm := by
      refine round_of_roundsTo (Sample.canonical hunpack) hm hfilled ?_ sign
      rw [hvalue]
      exact roundsTo_self .binary32 m e
    rw [hscalar, ofUnpacked, hround, ← hunpack, hpack]
  | infinity sign | zero sign =>
    rw [hunpack] at hpack
    unfold toScalar
    rw [hunpack, ← hpack]
    cases sign <;> decide +kernel
  | notANumber =>
    rw [hunpack] at hpack
    unfold toScalar
    rw [hunpack, ← hpack]
    decide +kernel

end RasterAlgebra
