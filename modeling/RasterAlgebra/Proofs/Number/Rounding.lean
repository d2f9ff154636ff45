import RasterAlgebra.Proofs.Number.Packing

/-!
# Rounding to the nearest float

Around the float `m * 2 ^ e` lie the numbers that round to it (`RoundsTo`): half way to its neighbours on
either side, with the ends if `m` is even. Whatever is rounded there, be it a product, a quotient or a whole
number, becomes this float.

* `Stands.shiftRightOne`: dropping a bit of a mantissa keeps track of the number that it stands for.
* `roundWithAccuracy_of_roundsTo`: rounding, told by where the number lies and not by how it is shifted.
* `round_of_roundsTo`, `mul_of_roundsTo`, `div_of_roundsTo`: the operations that end with a rounding.
-/

namespace RasterAlgebra

open Float.Model (Format UnpackedFloat totalExponent)
open Float.Model.UnpackedFloat

variable {spec : Format} {m : ℕ} {e : ℤ} {q : ℚ}

/-! ## What the bits behind a mantissa tell -/

/-- How far the mantissa is below the number, in units of its last bit. -/
def Accuracy.Tells : Accuracy → ℚ → Prop
  | .exact, r => r = 0
  | .inexact .lt, r => 0 < r ∧ r < 1 / 2
  | .inexact .eq, r => r = 1 / 2
  | .inexact .gt, r => 1 / 2 < r ∧ r < 1

/-- The mantissa and the two bits behind it stand for a number. -/
def Stands (em : ExtendedMantissa) (q : ℚ) : Prop := Accuracy.Tells em.accuracy (q - em.mantissa)

/-- What is cut off is less than one unit. -/
theorem Accuracy.Tells.bounds {accuracy : Accuracy} {r : ℚ} (h : Tells accuracy r) : 0 ≤ r ∧ r < 1 := by
  cases accuracy with
  | exact => exact ⟨h.ge, h.trans_lt one_pos⟩
  | inexact side =>
    cases side with
    | lt => exact ⟨h.1.le, by linarith [h.2]⟩
    | eq => exact ⟨by rw [h]; norm_num, by rw [h]; norm_num⟩
    | gt => exact ⟨by linarith [h.1], h.2⟩

/-- A mantissa with what is known of the rest stands for the number. -/
theorem stands_ofMantissaAndAccuracy {mantissa : ℕ} {accuracy : Accuracy}
    (h : Accuracy.Tells accuracy (q - mantissa)) :
    Stands (.ofMantissaAndAccuracy mantissa accuracy) q := by
  cases accuracy with
  | exact => exact h
  | inexact side => cases side <;> exact h

/-- The last bit of the mantissa becomes the round bit. -/
theorem shiftRightOne_eq (half : ℕ) (bit roundBit stickyBit : Bool) :
    ExtendedMantissa.shiftRightOne ⟨2 * half + bit.toNat, roundBit, stickyBit⟩ =
      ⟨half, bit, roundBit || stickyBit⟩ := by
  have hbit := Bool.toNat_lt bit
  have hhalf : (2 * half + bit.toNat) / 2 = half := by omega
  cases bit <;> simp_all [ExtendedMantissa.shiftRightOne]

/-- Shifted by one place, it stands for half of the number. -/
theorem Stands.shiftRightOne {em : ExtendedMantissa} (h : Stands em q) :
    Stands em.shiftRightOne (q / 2) := by
  obtain ⟨mantissa, roundBit, stickyBit⟩ := em
  obtain ⟨half, bit, rfl⟩ : ∃ half, ∃ bit : Bool, mantissa = 2 * half + bit.toNat :=
    ⟨mantissa / 2, mantissa.testBit 0, by rw [Nat.toNat_testBit]; omega⟩
  rw [shiftRightOne_eq]
  cases bit <;> cases roundBit <;> cases stickyBit <;>
    simp only [Stands, ExtendedMantissa.accuracy, Accuracy.Tells, Bool.or_false, Bool.or_true,
      Bool.toNat_false, Bool.toNat_true, Nat.cast_add, Nat.cast_mul, Nat.cast_ofNat, Nat.cast_zero,
      Nat.cast_one] at h ⊢
  all_goals first
    | linarith
    | exact ⟨by linarith, by linarith⟩

/-- And shifted by several places, for as many halves. -/
theorem Stands.shiftRight {em : ExtendedMantissa} (h : Stands em q) (n : ℕ) :
    Stands (em >>> n) (q / 2 ^ n) := by
  show Stands (n.repeat ExtendedMantissa.shiftRightOne em) _
  induction n with
  | zero => rwa [pow_zero, div_one]
  | succ n ih =>
    rw [pow_succ, ← div_div]
    exact ih.shiftRightOne

/-- A mantissa within half a unit is the rounded one; half way between two it has to be even. -/
theorem Stands.roundedMantissa_eq {em : ExtendedMantissa} (h : Stands em q)
    (hlower : (m : ℚ) - 1 / 2 ≤ q) (hupper : q ≤ m + 1 / 2)
    (hodd : m % 2 = 1 → (m : ℚ) - 1 / 2 < q ∧ q < m + 1 / 2) : em.roundedMantissa = m := by
  obtain ⟨mantissa, roundBit, stickyBit⟩ := em
  -- comparing the two mantissas is a matter of whole numbers
  have hle {a b : ℕ} (hab : (a : ℚ) < b + 1) : a ≤ b := by
    have : a < b + 1 := by exact_mod_cast hab
    omega
  cases roundBit <;> cases stickyBit <;> simp only [Stands, ExtendedMantissa.accuracy, Accuracy.Tells] at h
  · show mantissa = m
    exact le_antisymm (hle (by linarith)) (hle (by linarith))
  · show mantissa = m
    exact le_antisymm (hle (by linarith [h.1])) (hle (by linarith [h.2]))
  · show mantissa + mantissa % 2 = m
    have hge : mantissa ≤ m := hle (by linarith)
    have hnext : m ≤ mantissa + 1 := hle (by push_cast; linarith)
    rcases Nat.mod_two_eq_zero_or_one m with heven | hmodd
    · omega
    · obtain ⟨hlt, hgt⟩ := hodd hmodd
      have hge' : m ≤ mantissa := hle (by linarith)
      have hle' : mantissa + 1 ≤ m := hle (by push_cast; linarith)
      omega
  · show mantissa + 1 = m
    exact le_antisymm (hle (by push_cast; linarith [h.2])) (hle (by push_cast; linarith [h.1]))

/-! ## The numbers that round to a float -/

/-- Half the way from a float to the one below it, in units of its last bit. Floats are closer to each
other below the ones with the least mantissa of all their bits. -/
def halfBelow (spec : Format) (m : ℕ) (e : ℤ) : ℚ :=
  if m = 2 ^ spec.mantissaBitsWithoutImplicit ∧ spec.minExponent < e then 1 / 4 else 1 / 2

/-- The number lies between the middles to the neighbours of the float `m * 2 ^ e`; it may be one of them
only if `m` is even. -/
structure RoundsTo (spec : Format) (m : ℕ) (e : ℤ) (q : ℚ) : Prop where
  lower : m - halfBelow spec m e ≤ q / 2 ^ e
  upper : q / 2 ^ e ≤ m + 1 / 2
  odd : m % 2 = 1 → m - halfBelow spec m e < q / 2 ^ e ∧ q / 2 ^ e < m + 1 / 2

/-- The way to the middle below a float is positive. -/
theorem halfBelow_pos (spec : Format) (m : ℕ) (e : ℤ) : 0 < halfBelow spec m e := by
  unfold halfBelow
  split <;> norm_num

/-- It is half a unit at the most. -/
theorem halfBelow_le (spec : Format) (m : ℕ) (e : ℤ) : halfBelow spec m e ≤ 1 / 2 := by
  unfold halfBelow
  split <;> norm_num

theorem two_zpow_pos (e : ℤ) : (0 : ℚ) < 2 ^ e := zpow_pos two_pos e

/-- Each float rounds to itself. -/
theorem roundsTo_self (spec : Format) (m : ℕ) (e : ℤ) : RoundsTo spec m e (m * 2 ^ e) := by
  have hpos := halfBelow_pos spec m e
  have hself : (m : ℚ) * 2 ^ e / 2 ^ e = m := mul_div_cancel_right₀ _ (two_zpow_pos e).ne'
  refine ⟨?_, ?_, fun _ => ⟨?_, ?_⟩⟩ <;> rw [hself] <;> linarith

/-- What rounds to a float is at least half a unit of its last bit. -/
theorem RoundsTo.two_zpow_le (hq : RoundsTo spec m e q) (hm : 0 < m) : 2 ^ (e - 1) ≤ q := by
  have hgap := halfBelow_le spec m e
  have hone : (1 : ℚ) ≤ m := Nat.one_le_cast.mpr hm
  have hhalf : 1 / 2 ≤ q / 2 ^ e := by linarith [hq.lower]
  rw [le_div_iff₀ (two_zpow_pos e)] at hhalf
  rw [zpow_sub_one₀ (two_ne_zero' ℚ)]
  linarith

theorem RoundsTo.pos (hq : RoundsTo spec m e q) (hm : 0 < m) : 0 < q :=
  (two_zpow_pos _).trans_le (hq.two_zpow_le hm)

/-- What rounds to a float has no more bits than the float. -/
theorem RoundsTo.lt_two_zpow (hq : RoundsTo spec m e q) (hcanonical : Canonical spec m e) :
    q < 2 ^ (e + spec.mantissaBits) := by
  have hm : ((m + 1 : ℕ) : ℚ) ≤ ((2 ^ spec.mantissaBits : ℕ) : ℚ) :=
    Nat.cast_le.mpr (Nat.succ_le_of_lt hcanonical.mantissa_lt)
  push_cast at hm
  have hlt : q / 2 ^ e < 2 ^ spec.mantissaBits := by linarith [hq.upper]
  rw [div_lt_iff₀ (two_zpow_pos e)] at hlt
  rwa [zpow_add₀ (two_ne_zero' ℚ), zpow_natCast, mul_comm]

/-- What rounds to one float is not above what rounds to a larger one. -/
theorem RoundsTo.le_of_lt {m' : ℕ} {e' : ℤ} {q' : ℚ} (hq : RoundsTo spec m e q)
    (hq' : RoundsTo spec m' e' q') (hcanonical : Canonical spec m e)
    (hcanonical' : Canonical spec m' e') (hlt : e < e' ∨ e = e' ∧ m < m') : q ≤ q' := by
  have hgap := halfBelow_le spec m' e'
  have hupper := hq.upper
  have hlower := hq'.lower
  rcases hlt with hlt | ⟨rfl, hlt⟩
  · have hmin : spec.minExponent < e' := hcanonical.min_le.trans_lt hlt
    have hpower : (2 : ℚ) ^ spec.mantissaBitsWithoutImplicit - 1 / 4 ≤ q' / 2 ^ e' := by
      rcases (hcanonical'.normal.resolve_right hmin.ne').lt_or_eq with hgt | heq
      · have hnext : (2 : ℚ) ^ spec.mantissaBitsWithoutImplicit + 1 ≤ m' := by exact_mod_cast hgt
        linarith
      · have heq' : (2 : ℚ) ^ spec.mantissaBitsWithoutImplicit = m' := by exact_mod_cast heq
        have hnarrow : halfBelow spec m' e' = 1 / 4 := if_pos ⟨heq.symm, hmin⟩
        linarith
    have hm : (m : ℚ) + 1 ≤ 2 * 2 ^ spec.mantissaBitsWithoutImplicit := by
      have hdouble := two_pow_mantissaBits spec
      exact_mod_cast hdouble ▸ Nat.succ_le_of_lt hcanonical.mantissa_lt
    have hdouble : (2 : ℚ) ^ e * 2 ≤ 2 ^ e' := by
      rw [← zpow_add_one₀ (two_ne_zero' ℚ)]
      exact zpow_le_zpow_right₀ one_le_two (by omega)
    have hone : (1 : ℚ) ≤ 2 ^ spec.mantissaBitsWithoutImplicit := one_le_pow₀ one_le_two
    have hpos := two_zpow_pos e
    rw [div_le_iff₀ hpos] at hupper
    rw [le_div_iff₀ (two_zpow_pos e')] at hpower
    nlinarith
  · have hnext : (m : ℚ) + 1 ≤ m' := by exact_mod_cast hlt
    have hle : q / 2 ^ e ≤ q' / 2 ^ e := by linarith
    exact (div_le_div_iff_of_pos_right (two_zpow_pos e)).mp hle

/-! ## Exponents -/

/-- The exponent of a float that is in its place is the one that rounding aims at. -/
theorem Canonical.targetExponent_eq (h : Canonical spec m e) (hm : 0 < m) :
    spec.targetExponent (totalExponent m e) = e := by
  have hdouble := two_pow_mantissaBits spec
  have hbits : spec.mantissaBits = spec.mantissaBitsWithoutImplicit + 1 := Nat.add_comm _ _
  have hmin := h.min_le
  have hlog : m.log2 < spec.mantissaBits := (Nat.log2_lt (by omega)).mpr h.mantissa_lt
  rw [Format.targetExponent, totalExponent]
  rcases h.normal with hnormal | hleast
  · have := log2_of_normal hnormal h.mantissa_lt
    omega
  · omega

/-- A number in other units. -/
theorem div_two_zpow (q : ℚ) (e f : ℤ) : q / 2 ^ e = q / 2 ^ f * 2 ^ (f - e) := by
  rw [zpow_sub₀ (two_ne_zero' ℚ), mul_div_assoc', div_mul_cancel₀ _ (two_zpow_pos f).ne']

/-- Where a mantissa is short of the number by less than a unit, the number lies below the power of two
that the mantissa's bits have behind them. -/
theorem lt_two_zpow_totalExponent {M : ℕ} {E : ℤ} (h : q / 2 ^ E < M + 1) :
    q < 2 ^ totalExponent M E := by
  have hbits : ((M + 1 : ℕ) : ℚ) ≤ 2 ^ (M.log2 + 1) := by
    exact_mod_cast Nat.succ_le_of_lt Nat.lt_log2_self
  rw [totalExponent, zpow_add₀ (two_ne_zero' ℚ), ← div_lt_iff₀ (two_zpow_pos E)]
  have hcast : (2 : ℚ) ^ ((M.log2 : ℤ) + 1) = 2 ^ (M.log2 + 1) := by
    rw [← zpow_natCast]
    push_cast
    rfl
  rw [hcast]
  push_cast at hbits
  linarith

/-- The exponent of the mantissa tells how large a number is at least. -/
theorem two_zpow_le_of_totalExponent {M : ℕ} {E : ℤ} (hM : 0 < M) (h : (M : ℚ) ≤ q / 2 ^ E) :
    2 ^ (totalExponent M E - 1) ≤ q := by
  have hbits : ((2 ^ M.log2 : ℕ) : ℚ) ≤ M := by exact_mod_cast Nat.log2_self_le hM.ne'
  rw [totalExponent, show (M.log2 : ℤ) + 1 + E - 1 = M.log2 + E by ring, zpow_add₀ (two_ne_zero' ℚ),
    ← le_div_iff₀ (two_zpow_pos E), zpow_natCast]
  push_cast at hbits
  linarith

/-- In large units a number below a power of two is small. -/
theorem div_two_zpow_lt {k : ℤ} {n : ℕ} (h : q < 2 ^ k) (hk : k ≤ e + n) : q / 2 ^ e < 2 ^ n := by
  rw [div_lt_iff₀ (two_zpow_pos e), ← zpow_natCast, ← zpow_add₀ (two_ne_zero' ℚ)]
  exact h.trans_le (zpow_le_zpow_right₀ one_le_two (by omega))

/-- In small units a number from a power of two on is large. -/
theorem two_pow_le_div {k : ℤ} {n : ℕ} (h : 2 ^ k ≤ q) (hk : e + n ≤ k) : 2 ^ n ≤ q / 2 ^ e := by
  rw [le_div_iff₀ (two_zpow_pos e), ← zpow_natCast, ← zpow_add₀ (two_ne_zero' ℚ)]
  exact (zpow_le_zpow_right₀ one_le_two (by omega)).trans h

/-- A number that rounds to a float is rounded at the exponent of the float, or one below it if it lies
below a power of two. -/
theorem targetExponent_of_roundsTo (hcanonical : Canonical spec m e) (hq : RoundsTo spec m e q) {M : ℕ}
    {E : ℤ} (hlower : (M : ℚ) ≤ q / 2 ^ E) (hupper : q / 2 ^ E < M + 1)
    (hE : E ≤ spec.targetExponent (totalExponent M E)) :
    spec.targetExponent (totalExponent M E) = e ∨
      spec.targetExponent (totalExponent M E) = e - 1 ∧ q / 2 ^ e < m ∧
        m = 2 ^ spec.mantissaBitsWithoutImplicit ∧ spec.minExponent < e := by
  have hmin := hcanonical.min_le
  have hbits := spec.hm
  have hgap := halfBelow_le spec m e
  have hbelow := lt_two_zpow_totalExponent hupper
  rw [Format.targetExponent, Format.mantissaBits] at hE ⊢
  rcases lt_trichotomy (max (totalExponent M E - ((1 + spec.mantissaBitsWithoutImplicit : ℕ) : ℤ))
    spec.minExponent) e with hlt | heq | hgt
  · -- the number has no more bits than the mantissa has in front of its last one
    have hnormal : 2 ^ spec.mantissaBitsWithoutImplicit ≤ m := by
      rcases hcanonical.normal with hnormal | hleast
      · exact hnormal
      · omega
    have hnormal' : (2 : ℚ) ^ spec.mantissaBitsWithoutImplicit ≤ m := by exact_mod_cast hnormal
    have hsmall := div_two_zpow_lt (n := spec.mantissaBitsWithoutImplicit) hbelow (e := e) (by omega)
    have hpower : m = 2 ^ spec.mantissaBitsWithoutImplicit := by
      refine le_antisymm ?_ hnormal
      by_contra hnot
      have hnext : (2 : ℚ) ^ spec.mantissaBitsWithoutImplicit + 1 ≤ m := by
        exact_mod_cast Nat.succ_le_of_lt (not_le.mp hnot)
      linarith [hq.lower]
    refine .inr ⟨?_, by linarith, hpower, by omega⟩
    by_contra hnot
    obtain ⟨bits, hbits⟩ : ∃ bits, spec.mantissaBitsWithoutImplicit = bits + 1 :=
      ⟨spec.mantissaBitsWithoutImplicit - 1, by omega⟩
    have htiny := div_two_zpow_lt (n := bits) hbelow (e := e) (by omega)
    have hone : (1 : ℚ) ≤ 2 ^ bits := one_le_pow₀ one_le_two
    rw [hbits, pow_succ] at hnormal'
    linarith [hq.lower]
  · exact .inl heq
  · exfalso
    have hM : 0 < M := by
      rcases Nat.eq_zero_or_pos M with rfl | hM
      · rw [totalExponent, Nat.log2_zero] at hE hgt
        omega
      · exact hM
    have habove := two_zpow_le_of_totalExponent hM hlower
    have hlarge := two_pow_le_div (n := spec.mantissaBits) (e := e) habove
      (by rw [Format.mantissaBits]; omega)
    have hm : ((m + 1 : ℕ) : ℚ) ≤ ((2 ^ spec.mantissaBits : ℕ) : ℚ) :=
      Nat.cast_le.mpr (Nat.succ_le_of_lt hcanonical.mantissa_lt)
    push_cast at hm
    linarith [hq.upper]

/-! ## Rounding -/

/-- Shifting to an exponent keeps track of the number, in units of this exponent. -/
theorem stands_shiftToExponent {M : ℕ} {E T : ℤ} {accuracy : Accuracy}
    (hM : Accuracy.Tells accuracy (q / 2 ^ E - M)) (hT : E ≤ T) :
    Stands (shiftToExponent M E accuracy T).1 (q / 2 ^ T) ∧ (shiftToExponent M E accuracy T).2 = T := by
  have hshift : ((T - E).toNat : ℤ) = T - E := Int.toNat_of_nonneg (by omega)
  refine ⟨?_, ?_⟩
  · have hstands := (stands_ofMantissaAndAccuracy hM).shiftRight (T - E).toNat
    have hscale : q / 2 ^ E / 2 ^ (T - E).toNat = q / 2 ^ T := by
      rw [div_div, ← zpow_natCast, hshift, ← zpow_add₀ (two_ne_zero' ℚ), add_sub_cancel]
    rwa [hscale] at hstands
  · show E + ((T - E).toNat : ℤ) = T
    omega

/-- A float is not shifted any more, and if its mantissa has come to have one bit too many, by one bit. -/
theorem shiftToTargetExponent_of_canonical (h : Canonical spec m e) (hm : 0 < m) :
    shiftToTargetExponent spec m e .exact = (⟨m, false, false⟩, e) := by
  unfold shiftToTargetExponent shiftToExponent
  simp only [h.targetExponent_eq hm, sub_self, Int.toNat_zero, Nat.cast_zero, add_zero]
  rfl

/-- A mantissa that has become a power of two is shifted into its place without a rest. -/
theorem shiftToTargetExponent_of_carry (hmin : spec.minExponent < e) :
    shiftToTargetExponent spec (2 * 2 ^ spec.mantissaBitsWithoutImplicit) (e - 1) .exact =
      (⟨2 ^ spec.mantissaBitsWithoutImplicit, false, false⟩, e) := by
  have htarget : spec.targetExponent
      (totalExponent (2 * 2 ^ spec.mantissaBitsWithoutImplicit) (e - 1)) = e := by
    rw [Format.targetExponent, totalExponent, ← two_pow_mantissaBits, Nat.log2_two_pow]
    omega
  have hone : (e - (e - 1)).toNat = 1 := by omega
  unfold shiftToTargetExponent shiftToExponent
  simp only [htarget, hone, Nat.cast_one, sub_add_cancel]
  show (ExtendedMantissa.shiftRightOne (.ofMantissaAndAccuracy _ .exact), e) = _
  simp [ExtendedMantissa.shiftRightOne, ExtendedMantissa.ofMantissaAndAccuracy]

/-- What rounds to a float becomes this float, if enough bits of it are known. -/
theorem roundWithAccuracy_of_roundsTo (hcanonical : Canonical spec m e) (hm : 0 < m)
    (hq : RoundsTo spec m e q) {M : ℕ} {E : ℤ} {accuracy : Accuracy}
    (hM : Accuracy.Tells accuracy (q / 2 ^ E - M))
    (hE : E ≤ spec.targetExponent (totalExponent M E)) (sign : Sign) :
    roundWithAccuracy spec sign M E accuracy = .finite sign m e hm := by
  obtain ⟨hnonneg, hlt⟩ := hM.bounds
  obtain ⟨hstands, hexponent⟩ := stands_shiftToExponent hM hE
  have hrounded : shiftToTargetExponent spec
      (shiftToTargetExponent spec M E accuracy).1.roundedMantissa
      (shiftToTargetExponent spec M E accuracy).2 .exact = (⟨m, false, false⟩, e) := by
    rw [shiftToTargetExponent.eq_def spec M]
    simp only [hexponent]
    rcases targetExponent_of_roundsTo hcanonical hq (by linarith) (by linarith) hE with
      htarget | ⟨htarget, hbelow, hpower, hmin⟩
    · rw [htarget] at hstands ⊢
      have hgap := halfBelow_le spec m e
      rw [hstands.roundedMantissa_eq (by linarith [hq.lower]) hq.upper
        fun hodd => ⟨by linarith [hq.odd hodd], (hq.odd hodd).2⟩,
        shiftToTargetExponent_of_canonical hcanonical hm]
    · -- rounding up to a power of two takes a bit that the mantissa does not have
      rw [htarget] at hstands ⊢
      have hgap : halfBelow spec m e = 1 / 4 := if_pos ⟨hpower, hmin⟩
      have hlower := hq.lower
      have hdouble : q / 2 ^ (e - 1) = q / 2 ^ e * 2 := by
        rw [div_two_zpow q (e - 1) e, sub_sub_cancel, zpow_one]
      rw [hdouble] at hstands
      have hmantissa : (shiftToExponent M E accuracy (e - 1)).1.roundedMantissa = 2 * m := by
        refine hstands.roundedMantissa_eq ?_ ?_ ?_
        · push_cast
          linarith
        · push_cast
          linarith
        · intro hodd
          omega
      rw [hmantissa, hpower, shiftToTargetExponent_of_carry hmin]
  unfold roundWithAccuracy
  simp only [hrounded]
  exact dif_neg hm.ne'

/-! ## Operations that round -/

/-- Nothing is cut off of a number with these units. -/
theorem tells_exact {M : ℕ} {E : ℤ} (hq : q = M * 2 ^ E) : Accuracy.Tells .exact (q / 2 ^ E - M) := by
  show q / 2 ^ E - M = 0
  rw [hq, mul_div_cancel_right₀ _ (two_zpow_pos E).ne', sub_self]

/-- A mantissa with all its bits or more needs no others for rounding. -/
theorem le_targetExponent {M : ℕ} (hM : 2 ^ spec.mantissaBitsWithoutImplicit ≤ M) (E : ℤ) :
    E ≤ spec.targetExponent (totalExponent M E) := by
  have hpos := Nat.two_pow_pos spec.mantissaBitsWithoutImplicit
  have hlog := (Nat.le_log2 (by omega)).mpr hM
  rw [Format.targetExponent, totalExponent, Format.mantissaBits]
  omega

/-- A shift adds as many bits. -/
theorem log2_shiftLeft {M : ℕ} (hM : 0 < M) (n : ℕ) : (M <<< n).log2 = M.log2 + n := by
  induction n with
  | zero => rfl
  | succ n ih =>
    have hpos : 0 < M <<< n := by
      rw [Nat.shiftLeft_eq]
      exact Nat.mul_pos hM (Nat.two_pow_pos n)
    rw [Nat.shiftLeft_succ, Nat.log2_two_mul hpos.ne', ih]
    omega

/-- More bits of a mantissa are written as zeros behind it. -/
theorem totalExponent_shiftLeft {M : ℕ} (hM : 0 < M) (E : ℤ) (n : ℕ) :
    totalExponent (M <<< n) (E - n) = totalExponent M E := by
  rw [totalExponent, totalExponent, log2_shiftLeft hM]
  omega

/-- A number is rounded to the canonical one to which it is nearest. -/
theorem round_of_roundsTo (hcanonical : Canonical spec m e) (hm : 0 < m) {M : ℕ} {E : ℤ} (hM : 0 < M)
    (hq : RoundsTo spec m e (M * 2 ^ E)) (sign : Sign) :
    UnpackedFloat.round spec sign M E = .finite sign m e hm := by
  show roundWithAccuracy spec sign
    (M <<< (E - spec.targetExponent (totalExponent M E)).toNat)
    (E - (E - spec.targetExponent (totalExponent M E)).toNat) .exact = _
  refine roundWithAccuracy_of_roundsTo hcanonical hm hq (tells_exact ?_) ?_ sign
  · rw [Nat.shiftLeft_eq, zpow_sub₀ (two_ne_zero' ℚ), zpow_natCast]
    push_cast
    field_simp
  · rw [totalExponent_shiftLeft hM]
    omega

/-- A product is rounded once. -/
theorem mul_of_roundsTo (hcanonical : Canonical spec m e) (hm : 0 < m) {m₁ m₂ : ℕ} {e₁ e₂ : ℤ}
    (hm₁ : 0 < m₁) (hm₂ : 0 < m₂) (hbits : 2 ^ spec.mantissaBitsWithoutImplicit ≤ m₁ * m₂)
    (hq : RoundsTo spec m e (m₁ * 2 ^ e₁ * (m₂ * 2 ^ e₂))) :
    UnpackedFloat.mul spec (.finite .positive m₁ e₁ hm₁) (.finite .positive m₂ e₂ hm₂) =
      .finite .positive m e hm := by
  show roundWithAccuracy spec .positive (m₁ * m₂) (e₁ + e₂) .exact = _
  refine roundWithAccuracy_of_roundsTo hcanonical hm hq (tells_exact ?_) (le_targetExponent hbits _) _
  rw [zpow_add₀ (two_ne_zero' ℚ)]
  push_cast
  ring

/-- The remainder of a division tells where the quotient lies behind its whole part. -/
theorem tells_accuracyOfFraction (n : ℕ) {d : ℕ} (hd : 0 < d) :
    Accuracy.Tells (accuracyOfFraction (n % d) d) ((n : ℚ) / d - (n / d : ℕ)) := by
  have hd' : (0 : ℚ) < d := Nat.cast_pos.mpr hd
  have hremainder : (n : ℚ) / d - (n / d : ℕ) = (n % d : ℕ) / d := by
    have hparts : (d : ℚ) * (n / d : ℕ) + (n % d : ℕ) = n := by exact_mod_cast Nat.div_add_mod n d
    field_simp
    linarith
  have hlt : ((n % d : ℕ) : ℚ) < d := Nat.cast_lt.mpr (Nat.mod_lt n hd)
  rw [hremainder, accuracyOfFraction]
  split
  · rename_i hzero
    rw [hzero, Nat.cast_zero, zero_div]
    exact rfl
  · rename_i hnonzero
    have hpos : (0 : ℚ) < (n % d : ℕ) := Nat.cast_pos.mpr (Nat.pos_of_ne_zero hnonzero)
    rcases hcompare : compare (2 * (n % d)) d with _ | _ | _
    · have hhalf : (2 : ℚ) * (n % d : ℕ) < d := by exact_mod_cast Nat.compare_eq_lt.mp hcompare
      exact ⟨div_pos hpos hd', by rw [div_lt_iff₀ hd']; linarith⟩
    · have hhalf : (2 : ℚ) * (n % d : ℕ) = d := by exact_mod_cast Nat.compare_eq_eq.mp hcompare
      show ((n % d : ℕ) : ℚ) / d = 1 / 2
      rw [div_eq_iff hd'.ne']
      linarith
    · have hhalf : (d : ℚ) < 2 * (n % d : ℕ) := by exact_mod_cast Nat.compare_eq_gt.mp hcompare
      exact ⟨by rw [lt_div_iff₀ hd']; linarith, by rw [div_lt_iff₀ hd']; linarith⟩

/-- A quotient has as many bits as the difference of its operands' exponents tells, but one. -/
theorem log2_div {n d : ℕ} (hd : 0 < d) (hn : 0 < n) (hbits : d.log2 < n.log2) :
    n.log2 ≤ (n / d).log2 + 1 + d.log2 := by
  have hle : 2 ^ (n.log2 - d.log2 - 1) * d ≤ n := by
    calc 2 ^ (n.log2 - d.log2 - 1) * d ≤ 2 ^ (n.log2 - d.log2 - 1) * 2 ^ (d.log2 + 1) :=
          Nat.mul_le_mul_left _ Nat.lt_log2_self.le
      _ = 2 ^ n.log2 := by
          rw [← Nat.pow_add]
          congr 1
          omega
      _ ≤ n := Nat.log2_self_le hn.ne'
  have hquotient : 2 ^ (n.log2 - d.log2 - 1) ≤ n / d := (Nat.le_div_iff_mul_le hd).mpr hle
  have hpos := Nat.two_pow_pos (n.log2 - d.log2 - 1)
  have hlog := (Nat.le_log2 (by omega)).mpr hquotient
  omega

/-- A quotient is rounded once. -/
theorem div_of_roundsTo (hcanonical : Canonical spec m e) (hm : 0 < m) {m₁ m₂ : ℕ} {e₁ e₂ : ℤ}
    (hm₁ : 0 < m₁) (hm₂ : 0 < m₂) (hq : RoundsTo spec m e (m₁ * 2 ^ e₁ / (m₂ * 2 ^ e₂))) :
    UnpackedFloat.div spec (.finite .positive m₁ e₁ hm₁) (.finite .positive m₂ e₂ hm₂) =
      .finite .positive m e hm := by
  generalize hE : min (e₁ - e₂) (spec.targetExponent (totalExponent m₁ e₁ - totalExponent m₂ e₂)) = E
  generalize hn : m₁ <<< (e₁ - e₂ - E).toNat = n
  have hdiv : UnpackedFloat.div spec (.finite .positive m₁ e₁ hm₁) (.finite .positive m₂ e₂ hm₂) =
      roundWithAccuracy spec .positive (n / m₂) E (accuracyOfFraction (n % m₂) m₂) := by
    rw [← hn, ← hE]
    rfl
  have hshift : ((e₁ - e₂ - E).toNat : ℤ) = e₁ - e₂ - E := Int.toNat_of_nonneg (by omega)
  have hquotient : (m₁ : ℚ) * 2 ^ e₁ / (m₂ * 2 ^ e₂) / 2 ^ E = n / m₂ := by
    have hm₂' : (m₂ : ℚ) ≠ 0 := Nat.cast_ne_zero.mpr hm₂.ne'
    rw [← hn, Nat.shiftLeft_eq, Nat.cast_mul, Nat.cast_pow, Nat.cast_ofNat, ← zpow_natCast, hshift,
      zpow_sub₀ (two_ne_zero' ℚ), zpow_sub₀ (two_ne_zero' ℚ)]
    field_simp
  rw [hdiv]
  refine roundWithAccuracy_of_roundsTo hcanonical hm hq ?_ ?_ _
  · rw [hquotient]
    exact tells_accuracyOfFraction n hm₂
  · have hlog : n.log2 = m₁.log2 + (e₁ - e₂ - E).toNat := by rw [← hn, log2_shiftLeft hm₁]
    have hn₀ : 0 < n := by
      rw [← hn, Nat.shiftLeft_eq]
      exact Nat.mul_pos hm₁ (Nat.two_pow_pos _)
    have hle : E ≤ spec.targetExponent (totalExponent m₁ e₁ - totalExponent m₂ e₂) := by omega
    rw [Format.targetExponent, totalExponent, totalExponent] at hle
    rw [Format.targetExponent, totalExponent]
    -- without any bits of the quotient in front of `E`, all of it is below the least exponent
    by_cases hbits : m₂.log2 < n.log2
    · have := log2_div hm₂ hn₀ hbits
      omega
    · omega

end RasterAlgebra
