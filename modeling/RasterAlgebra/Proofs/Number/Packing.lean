import Mathlib
import RasterAlgebra.Sample

/-!
# Bits of floats

A float is a sign, an exponent and a mantissa in one word of bits. The floats that come out of such words
are those whose mantissa and exponent are in their place (`Canonical`), and for them packing and unpacking
undo each other (`unpack_pack_finite`, `pack_unpack`). So floats are equal if what they unpack to is
(`Scalar.ofModel_pack_unpack`).
-/

namespace RasterAlgebra

open Float.Model (Format UnpackedFloat)
open Float.Model.UnpackedFloat

variable {spec : Format}

/-! ## Formats -/

theorem exponentBias_succ (spec : Format) : spec.exponentBias + 1 = 2 ^ (spec.exponentBits - 1) := by
  have hpos := Nat.two_pow_pos (spec.exponentBits - 1)
  rw [Format.exponentBias]
  omega

theorem two_pow_exponentBits (spec : Format) : 2 ^ spec.exponentBits = 2 * spec.exponentBias + 2 := by
  have hbits : spec.exponentBits = spec.exponentBits - 1 + 1 := by
    have := spec.he
    omega
  have hbias := exponentBias_succ spec
  rw [hbits, Nat.pow_succ]
  omega

theorem minExponent_eq (spec : Format) :
    spec.minExponent = 1 - (spec.exponentBias : ℤ) - spec.mantissaBitsWithoutImplicit := by
  have hbias : ((spec.exponentBias : ℤ) + 1) = 2 ^ (spec.exponentBits - 1) := by
    exact_mod_cast exponentBias_succ spec
  rw [Format.minExponent, Format.mantissaBits, ← hbias]
  push_cast
  ring

theorem two_pow_mantissaBits (spec : Format) :
    2 ^ spec.mantissaBits = 2 * 2 ^ spec.mantissaBitsWithoutImplicit := by
  rw [Format.mantissaBits, Nat.pow_add, Nat.pow_one]

/-- The mantissa has as many bits as the format allows, or the exponent is the least one; and the exponent
is not beyond the format. -/
structure Canonical (spec : Format) (m : ℕ) (e : ℤ) : Prop where
  mantissa_lt : m < 2 ^ spec.mantissaBits
  min_le : spec.minExponent ≤ e
  normal : 2 ^ spec.mantissaBitsWithoutImplicit ≤ m ∨ e = spec.minExponent
  le_max : e ≤ spec.exponentBias - spec.mantissaBitsWithoutImplicit

/-! ## Parts of a word -/

theorem unpackSign_packComponents (sign : Sign) (e : BitVec spec.exponentBits)
    (m : BitVec spec.mantissaBitsWithoutImplicit) :
    unpackSign (packComponents spec sign e m) = sign.toBitVec := by
  ext i hi
  obtain rfl : i = 0 := by omega
  simp [unpackSign, packComponents, BitVec.getLsbD_append, BitVec.getElem_append]

theorem ofBitVec_toBitVec (sign : Sign) : Sign.ofBitVec sign.toBitVec = sign := by
  cases sign <;> rfl

theorem toBitVec_ofBitVec (b : BitVec 1) : (Sign.ofBitVec b).toBitVec = b := by
  revert b
  decide

/-- A word is made of its parts. -/
theorem packComponents_unpack (b : BitVec spec.numBits) :
    packComponents spec (Sign.ofBitVec (unpackSign b)) (unpackExponent b) (unpackMantissa b) = b := by
  have hexponent := spec.he
  have hmantissa := spec.hm
  rw [packComponents, toBitVec_ofBitVec]
  apply BitVec.eq_of_getLsbD_eq
  intro i hi
  simp only [unpackSign, unpackExponent, unpackMantissa, BitVec.getLsbD_append, BitVec.getLsbD_cast,
    BitVec.getLsbD_extractLsb]
  split
  · rename_i hlow
    rw [decide_eq_true (by omega), Bool.true_and, Nat.zero_add]
  · split
    · rename_i hmiddle
      rw [decide_eq_true (by omega), Bool.true_and]
      congr 1
      omega
    · rw [decide_eq_true (by omega), Bool.true_and]
      congr 1
      omega

/-- The implicit bit stands above the mantissa. -/
theorem toNat_implicit {n : ℕ} (m : BitVec n) : (1#1 ++ m).toNat = 2 ^ n + m.toNat := by
  rw [BitVec.toNat_append, ← Nat.shiftLeft_add_eq_or_of_lt m.isLt, Nat.shiftLeft_eq]
  simp

theorem exponent_lt_of_ne {e : BitVec spec.exponentBits} (h : e ≠ -1#_) :
    e.toNat + 1 < 2 ^ spec.exponentBits := by
  have hlt := e.isLt
  by_contra hge
  apply h
  apply BitVec.eq_of_toNat_eq
  rw [BitVec.neg_one_eq_allOnes, BitVec.toNat_allOnes]
  omega

/-! ## Unpacking -/

/-- What is unpacked from a word has its mantissa and exponent in their place. -/
theorem canonical_of_unpack (hspec : 0 < spec.exponentBias) {b : BitVec spec.numBits} {sign : Sign}
    {m : ℕ} {e : ℤ} {hm : 0 < m} (h : UnpackedFloat.unpack spec b = .finite sign m e hm) :
    Canonical spec m e := by
  have hmantissa := (unpackMantissa b).isLt
  have hbits := two_pow_exponentBits spec
  have hdouble := two_pow_mantissaBits spec
  have hmin := minExponent_eq spec
  unfold UnpackedFloat.unpack at h
  dsimp only at h
  split at h
  · split at h <;> simp at h
  · rename_i hnotAll
    split at h
    · rename_i hsubnormal
      split at h
      · simp at h
      · simp only [UnpackedFloat.finite.injEq, hsubnormal, BitVec.toNat_ofNat, Nat.zero_mod] at h
        obtain ⟨-, rfl, rfl⟩ := h
        exact ⟨by omega, by omega, .inr (by omega), by omega⟩
    · rename_i hnormal
      have hexponent := exponent_lt_of_ne hnotAll
      have hpos := BitVec.toNat_pos_of_ne_zero hnormal
      simp only [UnpackedFloat.finite.injEq, toNat_implicit] at h
      obtain ⟨-, rfl, rfl⟩ := h
      exact ⟨by omega, by omega, .inl (by omega), by omega⟩

theorem log2_of_normal {m : ℕ} (hlower : 2 ^ spec.mantissaBitsWithoutImplicit ≤ m)
    (hupper : m < 2 ^ spec.mantissaBits) : m.log2 + 1 = spec.mantissaBits := by
  have hpos := Nat.two_pow_pos spec.mantissaBitsWithoutImplicit
  have hle := (Nat.le_log2 (by omega)).mpr hlower
  have hlt := (Nat.log2_lt (by omega)).mpr hupper
  rw [Format.mantissaBits] at hlt ⊢
  omega

theorem log2_of_subnormal {m : ℕ} (hm : 0 < m) (hupper : m < 2 ^ spec.mantissaBitsWithoutImplicit) :
    m.log2 + 1 ≠ spec.mantissaBits := by
  have hlt := (Nat.log2_lt (by omega)).mpr hupper
  rw [Format.mantissaBits]
  omega

/-- Packing what was unpacked from a word gives the word. -/
theorem pack_unpack (hspec : 0 < spec.exponentBias) {b : BitVec spec.numBits}
    (hvalid : spec.Valid b) :
    UnpackedFloat.pack spec (UnpackedFloat.unpack spec b) = b := by
  have hparts := packComponents_unpack b
  have hmantissa := (unpackMantissa b).isLt
  have hbits := two_pow_exponentBits spec
  have hdouble := two_pow_mantissaBits spec
  unfold UnpackedFloat.unpack
  dsimp only
  split
  · -- infinite, or no number; of the latter, one word is valid
    rename_i hall
    split
    · rename_i hzero
      rw [hall, hzero] at hparts
      exact hparts
    · rename_i hnonzero
      exact (hvalid.eq_packedNaN hall hnonzero).symm
  · rename_i hnotAll
    have hexponent := exponent_lt_of_ne hnotAll
    split
    · -- zero, or a mantissa without the implicit bit
      rename_i hsubnormal
      rw [hsubnormal] at hparts
      split
      · rename_i hzero
        rw [hzero] at hparts
        exact hparts
      · rename_i hnonzero
        have hpos := BitVec.toNat_pos_of_ne_zero hnonzero
        rw [UnpackedFloat.pack]
        rw [if_neg, if_neg (log2_of_subnormal hpos hmantissa), BitVec.ofNat_toNat, BitVec.setWidth_eq]
        · exact hparts
        · simp only [hsubnormal, BitVec.toNat_ofNat, Nat.zero_mod]
          omega
    · have hbiased : ((unpackExponent b).toNat - ((spec.exponentBias : ℤ) +
          spec.mantissaBitsWithoutImplicit) + spec.exponentBias +
          spec.mantissaBitsWithoutImplicit).toNat = (unpackExponent b).toNat := by omega
      rw [UnpackedFloat.pack]
      rw [hbiased, if_neg (by omega), toNat_implicit, if_pos (log2_of_normal (by omega) (by omega)),
        BitVec.ofNat_toNat, BitVec.setWidth_eq]
      have hlow : BitVec.ofNat spec.mantissaBitsWithoutImplicit
          (2 ^ spec.mantissaBitsWithoutImplicit + (unpackMantissa b).toNat) = unpackMantissa b := by
        apply BitVec.eq_of_toNat_eq
        rw [BitVec.toNat_ofNat, Nat.add_mod_left, Nat.mod_eq_of_lt hmantissa]
      rw [hlow]
      exact hparts

/-- Unpacking what was packed gives back a mantissa and an exponent that are in their place. -/
theorem unpack_pack_finite {m : ℕ} {e : ℤ} (h : Canonical spec m e) (sign : Sign) (hm : 0 < m) :
    UnpackedFloat.unpack spec (UnpackedFloat.pack spec (.finite sign m e hm)) =
      .finite sign m e hm := by
  obtain ⟨hupper, hmin, hnormal, hmax⟩ := h
  have hbits := two_pow_exponentBits spec
  have hdouble := two_pow_mantissaBits spec
  have hleast := minExponent_eq spec
  obtain ⟨biased, hbiased⟩ : ∃ n : ℕ, (n : ℤ) = e + spec.exponentBias +
      spec.mantissaBitsWithoutImplicit := ⟨_, Int.toNat_of_nonneg (by omega)⟩
  have hlt : biased + 1 < 2 ^ spec.exponentBits := by omega
  rw [UnpackedFloat.pack]
  rw [← hbiased, Int.toNat_natCast, if_neg (by omega)]
  by_cases hlower : 2 ^ spec.mantissaBitsWithoutImplicit ≤ m
  · have hexponent : (BitVec.ofNat spec.exponentBits biased).toNat = biased := by
      rw [BitVec.toNat_ofNat, Nat.mod_eq_of_lt (by omega)]
    have hnotAll : BitVec.ofNat spec.exponentBits biased ≠ -1#_ := by
      intro hall
      rw [hall, BitVec.neg_one_eq_allOnes, BitVec.toNat_allOnes] at hexponent
      omega
    have hnotZero : BitVec.ofNat spec.exponentBits biased ≠ 0#_ := by
      intro hzero
      rw [hzero, BitVec.toNat_ofNat, Nat.zero_mod] at hexponent
      omega
    have hmantissa : (1#1 ++ BitVec.ofNat spec.mantissaBitsWithoutImplicit m).toNat = m := by
      rw [toNat_implicit, BitVec.toNat_ofNat, Nat.mod_eq_sub_mod hlower, Nat.mod_eq_of_lt (by omega)]
      omega
    rw [if_pos (log2_of_normal hlower hupper), UnpackedFloat.unpack]
    simp only [unpackMantissa_packComponents, unpackExponent_packComponents,
      unpackSign_packComponents, ofBitVec_toBitVec, if_neg hnotAll, if_neg hnotZero, hexponent,
      hmantissa]
    congr 1
    omega
  · obtain rfl : e = spec.minExponent := hnormal.resolve_left hlower
    have hmantissa : (BitVec.ofNat spec.mantissaBitsWithoutImplicit m).toNat = m := by
      rw [BitVec.toNat_ofNat, Nat.mod_eq_of_lt (by omega)]
    have hnonzero : BitVec.ofNat spec.mantissaBitsWithoutImplicit m ≠ 0#_ := by
      intro hzero
      rw [hzero, BitVec.toNat_ofNat, Nat.zero_mod] at hmantissa
      omega
    have hnotAll : (0#_ : BitVec spec.exponentBits) ≠ -1#_ := by
      intro hall
      have hnat := congrArg BitVec.toNat hall
      rw [BitVec.neg_one_eq_allOnes, BitVec.toNat_allOnes, BitVec.toNat_ofNat, Nat.zero_mod] at hnat
      omega
    rw [if_neg (log2_of_subnormal hm (by omega)), UnpackedFloat.unpack]
    simp only [unpackMantissa_packComponents, unpackExponent_packComponents,
      unpackSign_packComponents, ofBitVec_toBitVec, if_neg hnotAll, if_true, dif_neg hnonzero,
      hmantissa, BitVec.toNat_ofNat, Nat.zero_mod]
    congr 1
    omega

/-! ## Scalars -/

/-- A scalar is what its parts pack to. -/
theorem Scalar.ofModel_pack_unpack (x : Scalar) :
    Float.ofModel (.pack x.toModel.unpack) = x := by
  obtain ⟨⟨bits, hvalid⟩⟩ := x
  have hbits := pack_unpack (by decide) hvalid
  rw [Float.Model.pack, Float.Model.unpack]
  simp only [hbits]

theorem Scalar.canonical {x : Scalar} {sign : Sign} {m : ℕ} {e : ℤ} {hm : 0 < m}
    (h : x.toModel.unpack = .finite sign m e hm) : Canonical .binary64 m e :=
  canonical_of_unpack (by decide) h

theorem Sample.canonical {c : Sample} {sign : Sign} {m : ℕ} {e : ℤ} {hm : 0 < m}
    (h : c.toModel.unpack = .finite sign m e hm) : Canonical .binary32 m e :=
  canonical_of_unpack (by decide) h

/-- A scalar that is made of parts in their place has these parts. -/
theorem Scalar.unpack_ofModel_pack {m : ℕ} {e : ℤ} (h : Canonical .binary64 m e) (sign : Sign)
    (hm : 0 < m) :
    (Float.ofModel (.pack (.finite sign m e hm))).toModel.unpack = .finite sign m e hm :=
  unpack_pack_finite h sign hm

end RasterAlgebra
