import RasterAlgebra.Decimal.Shortest
import RasterAlgebra.Proofs.Number.Exact
import RasterAlgebra.Proofs.Number.Rounding

/-!
# Digits that read back

The digits that are looked for are those of numbers that round to the float (`holds_iff_roundsTo`). With 17
of them there always is one: the numbers of 17 digits stand closer to each other than the floats do, so one of
the two around the float is less than half way to the next float (`exists_roundsTo_grid`). So the search ends
with a number that rounds to the float (`exists_shortestFrom_eq`).
-/

namespace RasterAlgebra

open Float.Model (Format)
open Decimal (Magnitude RoundingRange Digits shortestFrom)

variable {m n count tries : ℕ} {e k : ℤ} {q : ℚ}

/-! ## The place of the first digit -/

namespace Decimal.Magnitude

theorem pow_digitCount_le (hn : 0 < n) : 10 ^ (digitCount n - 1) ≤ n := by
  by_contra hlt
  rcases Nat.eq_zero_or_pos (digitCount n - 1) with hzero | hpos
  · rw [hzero] at hlt
    omega
  · have hle := (Nat.length_toDigits_le_iff (by decide) hpos).mpr (not_le.mp hlt)
    have hlength := Nat.length_toDigits_pos (b := 10) (n := n)
    rw [digitCount] at hle
    omega

theorem lt_pow_digitCount (n : ℕ) : n < 10 ^ digitCount n :=
  (Nat.length_toDigits_le_iff (by decide) Nat.length_toDigits_pos).mp (Nat.le_refl _)

/-- The first digit of a number is not behind its place. -/
theorem ten_zpow_exponent_le {x : Magnitude} (hnum : 0 < x.num) (hden : 0 < x.den) :
    (10 : ℚ) ^ x.exponent ≤ x.toRat := by
  have hden' : (0 : ℚ) < x.den := Nat.cast_pos.mpr hden
  rw [exponent, toRat, le_div_iff₀ hden']
  split
  · rename_i hwhole
    have hdigits := pow_digitCount_le (Nat.div_pos hwhole hden)
    have hlength : 0 < digitCount (x.num / x.den) := Nat.length_toDigits_pos
    have hplace : ((digitCount (x.num / x.den) : ℤ) - 1) =
        ((digitCount (x.num / x.den) - 1 : ℕ) : ℤ) := by omega
    rw [hplace, zpow_natCast]
    exact_mod_cast (Nat.le_div_iff_mul_le hden).mp hdigits
  · rename_i hfraction
    have hlength : 0 < digitCount (x.den / x.num) := Nat.length_toDigits_pos
    obtain ⟨below, hbelow⟩ : ∃ below, digitCount (x.den / x.num) = below + 1 :=
      ⟨digitCount (x.den / x.num) - 1, by omega⟩
    have hupper := lt_pow_digitCount (x.den / x.num)
    rw [hbelow, Nat.div_lt_iff_lt_mul hnum] at hupper
    simp only [hbelow, Nat.add_sub_cancel]
    split
    · rename_i hpower
      have hden_eq : (x.den : ℚ) = x.num * 10 ^ below := by exact_mod_cast hpower
      rw [hden_eq, zpow_neg, zpow_natCast]
      field_simp
      exact le_refl _
    · have hplace : (-(below : ℤ) - 1) = -((below + 1 : ℕ) : ℤ) := by omega
      have hle : (x.den : ℚ) ≤ 10 ^ (below + 1) * x.num := by exact_mod_cast hupper.le
      rw [hplace, zpow_neg, zpow_natCast, inv_mul_le_iff₀ (by positivity)]
      exact hle

end Decimal.Magnitude

/-! ## The range around a float -/

theorem two_zpow_sub_two (e : ℤ) : (2 : ℚ) ^ (e - 2) = 2 ^ e / 4 := by
  rw [zpow_sub₀ (two_ne_zero' ℚ)]
  norm_num

theorem toRat_value_ofBinary64 (m : ℕ) (e : ℤ) :
    (RoundingRange.ofBinary64 m e).value.toRat = m * 2 ^ e := by
  rw [RoundingRange.ofBinary64, Magnitude.toRat_ofBinary, two_zpow_sub_two]
  push_cast
  ring

theorem toRat_lower_ofBinary64 (hm : 0 < m) (e : ℤ) :
    (RoundingRange.ofBinary64 m e).lower.toRat = (m - halfBelow .binary64 m e) * 2 ^ e := by
  have hnarrow : (m == Nat.pow 2 52 && decide (-1074 < e)) = true ↔
      m = 2 ^ Format.binary64.mantissaBitsWithoutImplicit ∧ Format.binary64.minExponent < e := by
    rw [Bool.and_eq_true, beq_iff_eq, decide_eq_true_iff]
    exact Iff.rfl
  rw [RoundingRange.ofBinary64, Magnitude.toRat_ofBinary, two_zpow_sub_two, halfBelow]
  simp only [hnarrow]
  split
  · rw [Nat.cast_sub (by omega)]
    push_cast
    ring
  · rw [Nat.cast_sub (by omega)]
    push_cast
    ring

theorem toRat_upper_ofBinary64 (m : ℕ) (e : ℤ) :
    (RoundingRange.ofBinary64 m e).upper.toRat = (m + 1 / 2) * 2 ^ e := by
  rw [RoundingRange.ofBinary64, Magnitude.toRat_ofBinary, two_zpow_sub_two]
  push_cast
  ring

namespace Decimal.Magnitude
variable {x : Magnitude}

theorem num_scale_le_iff (hx : 0 < x.den) :
    (x.scale k).num ≤ n * (x.scale k).den ↔ x.toRat ≤ n * 10 ^ (-k) := by
  have hden : (0 : ℚ) < (x.scale k).den := Nat.cast_pos.mpr (den_scale_pos hx k)
  rw [zpow_neg, ← div_eq_mul_inv, le_div_iff₀ (by positivity), ← toRat_scale, toRat, div_le_iff₀ hden]
  norm_cast

theorem le_num_scale_iff (hx : 0 < x.den) :
    n * (x.scale k).den ≤ (x.scale k).num ↔ n * 10 ^ (-k) ≤ x.toRat := by
  have hden : (0 : ℚ) < (x.scale k).den := Nat.cast_pos.mpr (den_scale_pos hx k)
  rw [zpow_neg, ← div_eq_mul_inv, div_le_iff₀ (by positivity), ← toRat_scale, toRat, le_div_iff₀ hden]
  norm_cast

end Decimal.Magnitude

/-- The range holds the numbers that round to the float. -/
theorem holds_iff_roundsTo (hm : 0 < m) :
    (RoundingRange.ofBinary64 m e).holds k n ↔ RoundsTo .binary64 m e (n * 10 ^ (-k)) := by
  have hlower : 0 < (RoundingRange.ofBinary64 m e).lower.den := Magnitude.den_ofBinary_pos _ _
  have hupper : 0 < (RoundingRange.ofBinary64 m e).upper.den := Magnitude.den_ofBinary_pos _ _
  have hclosed : (RoundingRange.ofBinary64 m e).closed = (m % 2 == 0) := rfl
  rw [RoundingRange.holds, hclosed]
  rcases Nat.mod_two_eq_zero_or_one m with heven | hodd
  · rw [if_pos (by simp [heven]), Bool.and_eq_true, decide_eq_true_iff, decide_eq_true_iff,
      Magnitude.num_scale_le_iff hlower, Magnitude.le_num_scale_iff hupper,
      toRat_lower_ofBinary64 hm, toRat_upper_ofBinary64, ← le_div_iff₀ (two_zpow_pos e),
      ← div_le_iff₀ (two_zpow_pos e)]
    exact ⟨fun h => ⟨h.1, h.2, by omega⟩, fun h => ⟨h.lower, h.upper⟩⟩
  · rw [if_neg (by simp [hodd]), Bool.and_eq_true, decide_eq_true_iff, decide_eq_true_iff,
      ← not_le, ← not_le, Magnitude.le_num_scale_iff hlower, Magnitude.num_scale_le_iff hupper,
      toRat_lower_ofBinary64 hm, toRat_upper_ofBinary64, not_le, not_le,
      ← lt_div_iff₀ (two_zpow_pos e), ← div_lt_iff₀ (two_zpow_pos e)]
    exact ⟨fun h => ⟨h.1.le, h.2.le, fun _ => h⟩, fun h => h.odd hodd⟩

theorem roundHalfEven_eq (num den : ℕ) :
    Decimal.roundHalfEven num den = num / den ∨ Decimal.roundHalfEven num den = num / den + 1 := by
  unfold Decimal.roundHalfEven
  dsimp only
  split
  · exact .inl rfl
  · split
    · exact .inr rfl
    · omega

theorem holds_of_nearest? {r : RoundingRange} (h : r.nearest? k = some n) : r.holds k n := by
  unfold RoundingRange.nearest? at h
  dsimp only at h
  split at h
  · rename_i hbelow habove
    obtain rfl := Option.some.inj h
    rcases roundHalfEven_eq (r.value.scale k).num (r.value.scale k).den with heq | heq
    · rw [heq]
      exact hbelow
    · rw [heq]
      exact habove
  · rename_i hbelow _
    obtain rfl := Option.some.inj h
    exact hbelow
  · rename_i _ habove
    obtain rfl := Option.some.inj h
    exact habove
  · cases h

/-! ## Grids of decimal numbers -/

theorem roundsTo_of_abs_lt {spec : Format} (h : |q / 2 ^ e - m| < halfBelow spec m e) :
    RoundsTo spec m e q := by
  have hgap := halfBelow_le spec m e
  obtain ⟨hlower, hupper⟩ := abs_lt.mp h
  exact ⟨by linarith, by linarith, fun _ => ⟨by linarith, by linarith⟩⟩

/-- Numbers with a unit of `10 ^ unit` are closer to each other than floats, if the float has 17 digits in
front of this unit. -/
theorem ten_zpow_div_lt (hcanonical : Canonical .binary64 m e) {unit : ℤ}
    (hunit : (10 : ℚ) ^ (unit + 16) ≤ m * 2 ^ e) :
    (10 : ℚ) ^ unit / 2 ^ e < 2 * halfBelow .binary64 m e := by
  have hm : (m : ℚ) < 2 ^ 53 := by exact_mod_cast hcanonical.mantissa_lt
  rw [zpow_add₀ (by norm_num : (10 : ℚ) ≠ 0)] at hunit
  have hle : (10 : ℚ) ^ unit / 2 ^ e ≤ m / 10 ^ 16 := by
    rw [div_le_div_iff₀ (two_zpow_pos e) (by positivity)]
    exact_mod_cast hunit
  refine hle.trans_lt ?_
  rw [div_lt_iff₀ (by positivity)]
  unfold halfBelow
  split
  · -- below a power of two the floats are closer, but the mantissa is small
    rename_i hpower
    have hm' : (m : ℚ) = 2 ^ 52 := by exact_mod_cast hpower.1
    rw [hm']
    norm_num
  · norm_num at hm ⊢
    linarith

/-- One of the two numbers of the grid around the float rounds to it. -/
theorem exists_nearest? (hcanonical : Canonical .binary64 m e) (hm : 0 < m) {unit : ℤ}
    (hunit : (10 : ℚ) ^ (unit + 16) ≤ m * 2 ^ e) :
    ((RoundingRange.ofBinary64 m e).nearest? (-unit)).isSome := by
  have hclose := ten_zpow_div_lt hcanonical hunit
  have hstep : 0 < (10 : ℚ) ^ unit / 2 ^ e := div_pos (zpow_pos (by norm_num) _) (two_zpow_pos e)
  generalize hv : (RoundingRange.ofBinary64 m e).value.scale (-unit) = v
  have hfloor : ((v.num / v.den : ℕ) : ℚ) ≤ v.toRat ∧ v.toRat < (v.num / v.den : ℕ) + 1 := by
    have h := Magnitude.floor_toRat v
    rw [Int.floor_eq_iff] at h
    exact_mod_cast h
  have hvalue : v.toRat * ((10 : ℚ) ^ unit / 2 ^ e) = m := by
    rw [← hv, Magnitude.toRat_scale, toRat_value_ofBinary64, zpow_neg]
    have hten : (10 : ℚ) ^ unit ≠ 0 := zpow_ne_zero _ (by norm_num)
    have htwo := (two_zpow_pos e).ne'
    field_simp
  have hdistance (n : ℕ) : (n : ℚ) * 10 ^ unit / 2 ^ e - m = (n - v.toRat) * (10 ^ unit / 2 ^ e) := by
    rw [sub_mul, hvalue, mul_div_assoc]
  have hholds (n : ℕ) (hn : |(n : ℚ) - v.toRat| ≤ 1 / 2) :
      (RoundingRange.ofBinary64 m e).holds (-unit) n := by
    rw [holds_iff_roundsTo hm, neg_neg]
    apply roundsTo_of_abs_lt
    rw [hdistance, abs_mul, abs_of_pos hstep]
    nlinarith
  have hone : (RoundingRange.ofBinary64 m e).holds (-unit) (v.num / v.den) ∨
      (RoundingRange.ofBinary64 m e).holds (-unit) (v.num / v.den + 1) := by
    rcases le_total (v.toRat - (v.num / v.den : ℕ)) (1 / 2) with hnear | hfar
    · exact .inl (hholds _ (abs_le.mpr ⟨by linarith, by linarith [hfloor.1]⟩))
    · refine .inr (hholds _ ?_)
      push_cast
      exact abs_le.mpr ⟨by linarith [hfloor.2], by linarith⟩
  unfold RoundingRange.nearest?
  simp only [hv]
  split
  · rfl
  · rfl
  · rfl
  · rename_i hbelow habove
    rw [hbelow, habove] at hone
    simp at hone

/-- If one of the grids that are tried has a number in the range, such a number is found. -/
theorem exists_shortestFrom_of_isSome {r : RoundingRange} {first : ℤ} {c : ℕ} (hcount : count ≤ c)
    (htries : c < count + tries) (h : (r.nearest? (-(first + 1 - c))).isSome) :
    ∃ n unit, shortestFrom r first tries count = .ofScaled n unit ∧ r.holds (-unit) n := by
  induction tries generalizing count with
  | zero => omega
  | succ tries ih =>
    rw [shortestFrom]
    cases hnearest : r.nearest? (-(first + 1 - count)) with
    | some n => exact ⟨n, _, rfl, holds_of_nearest? hnearest⟩
    | none =>
      have hne : count ≠ c := by
        rintro rfl
        rw [hnearest] at h
        cases h
      exact ih (by omega) (by omega)

/-- The search ends with a number that rounds to the float. -/
theorem exists_shortestFrom_eq (hcanonical : Canonical .binary64 m e) (hm : 0 < m) :
    ∃ n unit, shortestFrom (.ofBinary64 m e) (RoundingRange.ofBinary64 m e).value.exponent 17 1 =
      .ofScaled n unit ∧ RoundsTo .binary64 m e (n * 10 ^ unit) := by
  have hden : 0 < (RoundingRange.ofBinary64 m e).value.den := Magnitude.den_ofBinary_pos _ _
  have hnum : 0 < (RoundingRange.ofBinary64 m e).value.num := by
    apply Nat.pos_of_ne_zero
    intro hzero
    have hvalue := toRat_value_ofBinary64 m e
    rw [Magnitude.toRat, hzero, Nat.cast_zero, zero_div] at hvalue
    have hpos : (0 : ℚ) < m * 2 ^ e := mul_pos (Nat.cast_pos.mpr hm) (two_zpow_pos e)
    linarith
  have hplace := Magnitude.ten_zpow_exponent_le hnum hden
  rw [toRat_value_ofBinary64] at hplace
  have hunit : (10 : ℚ) ^ ((RoundingRange.ofBinary64 m e).value.exponent + 1 - (17 : ℕ) + 16) ≤
      m * 2 ^ e := by
    convert hplace using 2
    push_cast
    ring
  have hexists : ∃ n unit, shortestFrom (RoundingRange.ofBinary64 m e)
      (RoundingRange.ofBinary64 m e).value.exponent 17 1 = .ofScaled n unit ∧
        (RoundingRange.ofBinary64 m e).holds (-unit) n :=
    exists_shortestFrom_of_isSome (by decide) (by decide) (exists_nearest? hcanonical hm hunit)
  obtain ⟨n, unit, heq, hholds⟩ := hexists
  rw [holds_iff_roundsTo hm, neg_neg] at hholds
  exact ⟨n, unit, heq, hholds⟩

end RasterAlgebra
