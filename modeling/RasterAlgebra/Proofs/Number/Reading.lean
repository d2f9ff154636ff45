import RasterAlgebra.Decimal.Reader
import RasterAlgebra.Proofs.Number.Exact
import RasterAlgebra.Proofs.Number.Rounding

/-!
# Reading decimal numbers

Digits and a power of ten are read as the float to which their value rounds (`ofDecimal_of_roundsTo`). Few
digits with a small power are read by one multiplication or division of two floats that are exact
(`exists_unpack_toFloat`, `exists_unpack_powerOfTen`), others by the same on numbers of any size
(`ofScientific_of_roundsTo`).
-/

namespace RasterAlgebra

open Float.Model (Format UnpackedFloat totalExponent)
open Float.Model.UnpackedFloat

variable {x : Scalar} {m n : ℕ} {e k : ℤ}

/-! ## Powers -/

theorem ten_zpow_eq (k : ℤ) : (10 : ℚ) ^ k = if 0 ≤ k then 10 ^ k.toNat else (10 ^ (-k).toNat)⁻¹ := by
  split
  · rename_i hk
    rw [← zpow_natCast, Int.toNat_of_nonneg hk]
  · rename_i hk
    rw [← zpow_natCast, Int.toNat_of_nonneg (by omega), zpow_neg, inv_inv]

theorem two_zpow_le_ten_zpow (hk : 0 ≤ k) : (2 : ℚ) ^ k ≤ 10 ^ k :=
  zpow_le_zpow_left₀ hk two_pos.le (by norm_num)

theorem ten_zpow_le_two_zpow (hk : k ≤ 0) : (10 : ℚ) ^ k ≤ 2 ^ k := by
  have h := two_zpow_le_ten_zpow (k := -k) (by omega)
  rw [zpow_neg, zpow_neg] at h
  exact (inv_le_inv₀ (two_zpow_pos k) (zpow_pos (by norm_num) k)).mp h

/-! ## Numbers of any size -/

theorem pos_of_roundsTo {spec : Format} (hm : 0 < m) (hq : RoundsTo spec m e (n * 10 ^ k)) : 0 < n := by
  rcases Nat.eq_zero_or_pos n with rfl | hn
  · have hpos := hq.pos hm
    rw [Nat.cast_zero, zero_mul] at hpos
    exact absurd hpos (lt_irrefl 0)
  · exact hn

/-- No float is so large that its digits need such a power of ten behind them. -/
theorem exponent_le_of_roundsTo (hcanonical : Canonical .binary64 m e)
    (hq : RoundsTo .binary64 m e (n * 10 ^ k)) (hn : 0 < n) : k ≤ 2 ^ 11 := by
  by_contra hlarge
  have hupper : (n : ℚ) * 10 ^ k < 2 ^ (e + 53) := hq.lt_two_zpow hcanonical
  have hmax : e ≤ 971 := hcanonical.le_max
  have hone : (1 : ℚ) ≤ n := Nat.one_le_cast.mpr hn
  have hpower := two_zpow_le_ten_zpow (k := k) (by omega)
  have hlt : (2 : ℚ) ^ k < 2 ^ (e + 53) := by nlinarith [two_zpow_pos k]
  have := (zpow_lt_zpow_iff_right₀ one_lt_two).mp hlt
  omega

/-- No float is so small. -/
theorem neg_le_exponent_of_roundsTo (hcanonical : Canonical .binary64 m e) (hm : 0 < m)
    (hq : RoundsTo .binary64 m e (n * 10 ^ k)) : -(2 ^ 11 + n.log2 : ℤ) ≤ k := by
  by_contra hsmall
  have hlower := hq.two_zpow_le hm
  have hmin : -1074 ≤ e := hcanonical.min_le
  have hbits : (n : ℚ) < 2 ^ ((n.log2 : ℤ) + 1) := by exact_mod_cast Nat.lt_log2_self (n := n)
  have hpower := ten_zpow_le_two_zpow (k := k) (by omega)
  have hlt : (2 : ℚ) ^ (e - 1) < 2 ^ ((n.log2 : ℤ) + 1 + k) := by
    calc (2 : ℚ) ^ (e - 1) ≤ n * 10 ^ k := hlower
      _ ≤ n * 2 ^ k := by gcongr
      _ < 2 ^ ((n.log2 : ℤ) + 1) * 2 ^ k := by gcongr
      _ = 2 ^ ((n.log2 : ℤ) + 1 + k) := (zpow_add₀ (two_ne_zero' ℚ) _ _).symm
  have := (zpow_lt_zpow_iff_right₀ one_lt_two).mp hlt
  omega

theorem ofScientific_of_roundsTo (hcanonical : Canonical .binary64 m e) (hm : 0 < m)
    (hq : RoundsTo .binary64 m e (n * 10 ^ k)) :
    UnpackedFloat.ofScientific .binary64 n k = .finite .positive m e hm := by
  have hn := pos_of_roundsTo hm hq
  have hle := exponent_le_of_roundsTo hcanonical hq hn
  have hge := neg_le_exponent_of_roundsTo hcanonical hm hq
  unfold UnpackedFloat.ofScientific
  rw [dif_neg hn.ne', if_neg (not_lt.mpr hle), if_neg (not_lt.mpr hge)]
  rw [ten_zpow_eq] at hq
  split
  · -- the digits are shifted, so that the product has all bits of a mantissa
    rename_i hk
    rw [if_pos hk] at hq
    refine mul_of_roundsTo hcanonical hm _ _ ?_ ?_
    · have hpower : 0 < 10 ^ k.toNat := Nat.pow_pos (by decide)
      rw [Nat.shiftLeft_eq]
      show 2 ^ 52 ≤ n * 2 ^ 53 * 10 ^ k.toNat
      nlinarith
    · have hshifted : ((n <<< Format.binary64.mantissaBits : ℕ) : ℚ) *
          2 ^ (-Format.binary64.mantissaBits : ℤ) * ((10 ^ k.toNat : ℕ) * 2 ^ (0 : ℤ)) =
            n * 10 ^ k.toNat := by
        rw [Nat.shiftLeft_eq, zpow_neg, zpow_natCast, zpow_zero]
        push_cast
        field_simp
      rwa [hshifted]
  · rename_i hk
    rw [if_neg hk] at hq
    refine div_of_roundsTo hcanonical hm _ _ ?_
    have hfraction : (n : ℚ) * 2 ^ (0 : ℤ) / ((10 ^ (-k).toNat : ℕ) * 2 ^ (0 : ℤ)) =
        n * (10 ^ (-k).toNat)⁻¹ := by
      rw [zpow_zero, mul_one, mul_one, div_eq_mul_inv]
      push_cast
      rfl
    rwa [hfraction]

/-! ## Exact floats -/

/-- A float that is a given positive number, with all bits of its mantissa. -/
structure IsExactly (x : Scalar) (q : ℚ) (m : ℕ) (e : ℤ) (hm : 0 < m) : Prop where
  unpack_eq : x.toModel.unpack = .finite .positive m e hm
  bits : 2 ^ 52 ≤ m
  value : m * 2 ^ e = q

/-- A whole number becomes the float to which it rounds. -/
theorem unpack_toFloat_of_roundsTo (hcanonical : Canonical .binary64 m e) (hm : 0 < m) (hn : 0 < n)
    (hlt : n < 2 ^ 64) (hq : RoundsTo .binary64 m e n) :
    n.toUInt64.toFloat.toModel.unpack = .finite .positive m e hm := by
  have hround := round_of_roundsTo hcanonical hm (M := n) (E := 0) hn (by simpa using hq) .positive
  have hnormalize : UnpackedFloat.ofUInt64 .binary64 n.toUInt64 =
      UnpackedFloat.round .binary64 .positive n 0 := by
    have hnat : n.toUInt64.toNat = n := UInt64.toNat_ofNat_of_lt' hlt
    have hcompare : compare (n : ℤ) 0 = .gt := compare_gt_iff_gt.mpr (by omega)
    show UnpackedFloat.normalize .binary64 (n.toUInt64.toNat : ℤ) 0 .positive = _
    rw [hnat, UnpackedFloat.normalize, hcompare]
    rfl
  show (Float.ofModel (.pack (UnpackedFloat.ofUInt64 .binary64 n.toUInt64))).toModel.unpack = _
  rw [hnormalize, hround]
  exact Scalar.unpack_ofModel_pack hcanonical .positive hm

/-- Zeros behind the bits of a mantissa fill it up. -/
theorem exists_filled (hn : 0 < n) (hlt : n < 2 ^ 53) :
    ∃ rest, rest + n.log2 = 52 ∧ 2 ^ 52 ≤ n * 2 ^ rest ∧ n * 2 ^ rest < 2 ^ 53 := by
  have hlog := (Nat.log2_lt hn.ne').mpr hlt
  have hlower := Nat.log2_self_le hn.ne'
  have hupper := Nat.lt_log2_self (n := n)
  obtain ⟨rest, hrest⟩ : ∃ rest, rest + n.log2 = 52 := ⟨52 - n.log2, by omega⟩
  refine ⟨rest, hrest, ?_, ?_⟩
  · calc 2 ^ 52 = 2 ^ n.log2 * 2 ^ rest := by rw [← Nat.pow_add, Nat.add_comm, hrest]
      _ ≤ n * 2 ^ rest := Nat.mul_le_mul_right _ hlower
  · calc n * 2 ^ rest < 2 ^ (n.log2 + 1) * 2 ^ rest :=
          Nat.mul_lt_mul_of_pos_right hupper (Nat.two_pow_pos rest)
      _ = 2 ^ 53 := by
          rw [← Nat.pow_add]
          congr 1
          omega

theorem exists_isExactly_toFloat (hn : 0 < n) (hlt : n < 2 ^ 53) :
    ∃ m e hm, IsExactly n.toUInt64.toFloat n m e hm := by
  obtain ⟨rest, hrest, hbits, hmantissa⟩ := exists_filled hn hlt
  have hcanonical : Canonical .binary64 (n * 2 ^ rest) (-rest) := by
    refine ⟨hmantissa, ?_, .inl hbits, ?_⟩
    · show (-1074 : ℤ) ≤ -rest
      omega
    · show -(rest : ℤ) ≤ 971
      omega
  have hvalue : ((n * 2 ^ rest : ℕ) : ℚ) * 2 ^ (-rest : ℤ) = n := by
    rw [zpow_neg, zpow_natCast]
    push_cast
    field_simp
  have hm : 0 < n * 2 ^ rest := Nat.mul_pos hn (Nat.two_pow_pos rest)
  refine ⟨n * 2 ^ rest, -rest, hm, ?_, hbits, hvalue⟩
  have hself := roundsTo_self .binary64 (n * 2 ^ rest) (-rest)
  rw [hvalue] at hself
  exact unpack_toFloat_of_roundsTo hcanonical hm hn (hlt.trans (by decide)) hself

/-- Whether a float is a given whole number, with all bits of its mantissa. -/
def holdsExactly (n : ℕ) : UnpackedFloat → Bool
  | .finite .positive m e _ =>
    2 ^ 52 ≤ m && (Decimal.Magnitude.ofBinary m e).num == n * (Decimal.Magnitude.ofBinary m e).den
  | _ => false

theorem exists_isExactly_of_holdsExactly (h : holdsExactly n x.toModel.unpack) :
    ∃ m e hm, IsExactly x n m e hm := by
  cases hunpack : x.toModel.unpack with
  | infinity | notANumber | zero =>
    rw [hunpack] at h
    cases h
  | finite sign m e hm =>
    rw [hunpack] at h
    cases sign with
    | negative => cases h
    | positive =>
      rw [holdsExactly, Bool.and_eq_true, decide_eq_true_iff, beq_iff_eq] at h
      have hden : ((Decimal.Magnitude.ofBinary m e).den : ℚ) ≠ 0 :=
        Nat.cast_ne_zero.mpr (Decimal.Magnitude.den_ofBinary_pos m e).ne'
      refine ⟨m, e, hm, hunpack, h.1, ?_⟩
      rw [← Decimal.Magnitude.toRat_ofBinary, Decimal.Magnitude.toRat, h.2, Nat.cast_mul,
        mul_div_cancel_right₀ _ hden]

theorem holdsExactly_powerOfTen :
    ∀ i : Fin 23, holdsExactly (10 ^ (i : ℕ))
      Float.exactlyRepresentablePowersOfTen[i].toModel.unpack := by
  decide +kernel

/-! ## Reading -/

/-- Few digits with a small power of ten, or many with any power. -/
theorem float_ofScientific_of_roundsTo {hm : 0 < m} (hx : x.toModel.unpack = .finite .positive m e hm)
    (negative : Bool) (i : ℕ)
    (hq : RoundsTo .binary64 m e (n * 10 ^ (if negative then -(i : ℤ) else i))) :
    Float.ofScientific n negative i = x := by
  have hcanonical := Scalar.canonical hx
  have hn := pos_of_roundsTo hm hq
  rw [← Scalar.ofModel_pack_unpack x, hx]
  unfold Float.ofScientific
  split
  · rename_i hsmall
    obtain ⟨hlt, hi⟩ := hsmall
    obtain ⟨m₁, e₁, hm₁, hdigits⟩ := exists_isExactly_toFloat hn hlt
    obtain ⟨m₂, e₂, hm₂, hpower⟩ :=
      exists_isExactly_of_holdsExactly (holdsExactly_powerOfTen ⟨i, by omega⟩)
    have hvalue : (m₂ : ℚ) * 2 ^ e₂ = 10 ^ i := by
      rw [hpower.value]
      push_cast
      rfl
    have hsize : i < Float.exactlyRepresentablePowersOfTen.size := by
      show i < 23
      omega
    have hpower' : Float.exactlyRepresentablePowersOfTen[i].toModel.unpack =
        .finite .positive m₂ e₂ hm₂ := hpower.unpack_eq
    -- both factors are floats, so there is one rounding, that of the quotient or product
    cases negative with
    | true =>
      have hquotient : (m₁ : ℚ) * 2 ^ e₁ / (m₂ * 2 ^ e₂) = n * 10 ^ (-(i : ℤ)) := by
        rw [hdigits.value, hvalue, zpow_neg, zpow_natCast, div_eq_mul_inv]
      have hdiv := div_of_roundsTo hcanonical hm hm₁ hm₂ (hquotient ▸ hq)
      rw [← hdigits.unpack_eq, ← hpower'] at hdiv
      rw [← hdiv]
      rfl
    | false =>
      have hproduct : (m₁ : ℚ) * 2 ^ e₁ * (m₂ * 2 ^ e₂) = n * 10 ^ (i : ℤ) := by
        rw [hdigits.value, hvalue, zpow_natCast]
      have hbits : 2 ^ 52 ≤ m₁ * m₂ := hdigits.bits.trans (Nat.le_mul_of_pos_right m₁ hm₂)
      have hmul := mul_of_roundsTo hcanonical hm hm₁ hm₂ hbits (hproduct ▸ hq)
      rw [← hdigits.unpack_eq, ← hpower'] at hmul
      rw [← hmul]
      rfl
  · have hmodel := ofScientific_of_roundsTo hcanonical hm hq
    rw [← hmodel]
    cases negative with
    | true =>
      show Float.ofModel (.ofScientific n (Int.negOfNat i)) = _
      rw [Int.negOfNat_eq]
      rfl
    | false => rfl

/-- Decimal numbers are read as the float to which they round. -/
theorem ofDecimal_of_roundsTo {hm : 0 < m} (hx : x.toModel.unpack = .finite .positive m e hm)
    (hq : RoundsTo .binary64 m e (n * 10 ^ k)) : Decimal.ofDecimal n k = x := by
  unfold Decimal.ofDecimal
  split
  · rename_i hk
    obtain ⟨i, rfl⟩ := Int.eq_ofNat_of_zero_le hk
    exact float_ofScientific_of_roundsTo hx false i hq
  · rename_i hk
    obtain ⟨i, rfl⟩ : ∃ i : ℕ, k = -i := ⟨(-k).toNat, by omega⟩
    rw [neg_neg, Int.toNat_natCast]
    exact float_ofScientific_of_roundsTo hx true i hq

end RasterAlgebra
