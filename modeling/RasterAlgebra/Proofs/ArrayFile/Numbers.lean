import RasterAlgebra.ArrayFile.Element
import RasterAlgebra.Proofs.Number.Rounding

/-!
# Elements as numbers

The bits of an element stand for a number: whole numbers are counted in two's complement, and real numbers are
floats of the format that has so many bytes (`elementNumber`). The sample of an element is this number, rounded
once (`sampleOf_eq_ofUnpacked`).
-/

namespace RasterAlgebra

open Float.Model (Format UnpackedFloat)
open Float.Model.UnpackedFloat

variable {spec : Format}

/-! ## Numbers that floats hold -/

theorem Scalar.unpack_ofBits (w : UInt64) :
    (Float.ofBits w).toModel.unpack = UnpackedFloat.unpack .binary64 w.toBitVec := by
  show UnpackedFloat.unpack .binary64 (UnpackedFloat.pack .binary64 (UnpackedFloat.unpack .binary64 w.toBitVec)) = _
  cases h : UnpackedFloat.unpack .binary64 w.toBitVec with
  | notANumber => rfl
  | infinity sign | zero sign => cases sign <;> rfl
  | finite sign m e hm => exact unpack_pack_finite (canonical_of_unpack (by decide) h) sign hm

theorem Sample.ofUnpacked_unpack (b : BitVec 32) :
    Sample.ofUnpacked (UnpackedFloat.unpack .binary32 b) = .ofModel (.pack (UnpackedFloat.unpack .binary32 b)) := by
  cases h : UnpackedFloat.unpack .binary32 b with
  | notANumber | infinity | zero => rfl
  | finite sign m e hm =>
    have hround : UnpackedFloat.round .binary32 sign m e = .finite sign m e hm :=
      round_of_roundsTo (canonical_of_unpack (by decide) h) hm hm (roundsTo_self .binary32 m e) sign
    rw [ofUnpacked, hround]

/-- A whole number as it is. -/
def wholeNumber (n : ℤ) : UnpackedFloat :=
  if h : n = 0 then .zero .positive
  else .finite (if n < 0 then .negative else .positive) n.natAbs 0 (Int.natAbs_pos.mpr h)

theorem Sample.ofUnpacked_wholeNumber (n : ℤ) : Sample.ofUnpacked (wholeNumber n) = Sample.ofInt n := by
  rw [wholeNumber, Sample.ofInt, UnpackedFloat.normalize]
  rcases lt_trichotomy n 0 with h | rfl | h
  · have habs : (-n).toNat = n.natAbs := by omega
    rw [dif_neg h.ne, Int.compare_eq_lt.mpr h]
    simp only [if_pos h, habs]
    rfl
  · rfl
  · have habs : n.toNat = n.natAbs := by omega
    rw [dif_neg h.ne', Int.compare_eq_gt.mpr h]
    simp only [if_neg h.not_gt, habs]
    rfl

/-! ## Parts of a word as numbers -/

theorem toNat_unpackMantissa (b : BitVec spec.numBits) :
    (unpackMantissa b).toNat = b.toNat % 2 ^ spec.mantissaBitsWithoutImplicit := by
  have hbits : spec.mantissaBitsWithoutImplicit - 1 - 0 + 1 = spec.mantissaBitsWithoutImplicit := by
    have := spec.hm
    omega
  simp only [unpackMantissa, BitVec.toNat_cast, BitVec.extractLsb_toNat, Nat.shiftRight_zero, hbits]

theorem toNat_unpackExponent (b : BitVec spec.numBits) :
    (unpackExponent b).toNat = b.toNat / 2 ^ spec.mantissaBitsWithoutImplicit % 2 ^ spec.exponentBits := by
  have hbits : spec.mantissaBitsWithoutImplicit + spec.exponentBits - 1 - spec.mantissaBitsWithoutImplicit + 1 =
      spec.exponentBits := by
    have := spec.he
    omega
  simp only [unpackExponent, BitVec.toNat_cast, BitVec.extractLsb_toNat, Nat.shiftRight_eq_div_pow, hbits]

theorem toNat_unpackSign (b : BitVec spec.numBits) :
    (unpackSign b).toNat = b.toNat / 2 ^ (spec.mantissaBitsWithoutImplicit + spec.exponentBits) % 2 := by
  simp only [unpackSign, BitVec.toNat_cast, BitVec.extractLsb_toNat, Nat.shiftRight_eq_div_pow, Nat.sub_self,
    Nat.zero_add, Nat.pow_one]

/-! ## Half precision -/

/-- The format of two bytes. -/
abbrev binary16 : Format where
  mantissaBitsWithoutImplicit := 10
  exponentBits := 5

namespace ArrayFile

theorem ofBitVec_eq (b : BitVec 1) :
    Sign.ofBitVec b = if b.toNat = 1 then Sign.negative else .positive := by
  rcases BitVec.eq_zero_or_eq_one b with rfl | rfl <;> rfl

theorem ofHalf_eq_ofUnpacked {bits : ℕ} (h : bits < 2 ^ 16) :
    ofHalf bits = Sample.ofUnpacked (.unpack binary16 (.ofNat 16 bits)) := by
  -- a name for the word, of the type that belongs to the format
  obtain ⟨b, hb⟩ : ∃ b : BitVec binary16.numBits, b = .ofNat 16 bits := ⟨_, rfl⟩
  have hword : b.toNat = bits := by
    rw [hb]
    exact Nat.mod_eq_of_lt h
  have hmantissa : bits % 1024 = (unpackMantissa b).toNat := by
    rw [toNat_unpackMantissa, hword]
    rfl
  have hexponent : bits / 1024 % 32 = (unpackExponent b).toNat := by
    rw [toNat_unpackExponent, hword]
    rfl
  have hsign : bits / 32768 % 2 = (unpackSign b).toNat := by
    rw [toNat_unpackSign, hword]
    rfl
  have hall : (unpackExponent b).toNat = 31 ↔ unpackExponent b = -1#_ := by
    rw [← BitVec.toNat_inj]
    rfl
  have hnone : (unpackExponent b).toNat = 0 ↔ unpackExponent b = 0#_ := by
    rw [← BitVec.toNat_inj]
    rfl
  have hzero : (unpackMantissa b).toNat = 0 ↔ unpackMantissa b = 0#_ := by
    rw [← BitVec.toNat_inj]
    rfl
  rw [← hb, ofHalf, hmantissa, hexponent, hsign, ← ofBitVec_eq]
  unfold UnpackedFloat.unpack
  dsimp only
  by_cases hinfinite : unpackExponent b = -1#_
  · rw [if_pos (hall.mpr hinfinite), if_pos hinfinite]
    simp only [hzero]
  rw [if_neg (hall.not.mpr hinfinite), if_neg hinfinite]
  by_cases hsubnormal : unpackExponent b = 0#_
  · rw [if_pos (hnone.mpr hsubnormal), if_pos hsubnormal]
    by_cases hm : unpackMantissa b = 0#_
    · rw [dif_neg (by rw [hzero.mpr hm]; decide), dif_pos hm]
    · rw [dif_pos (Nat.pos_of_ne_zero (hzero.not.mpr hm)), dif_neg hm, hsubnormal]
      rfl
  · rw [if_neg (hnone.not.mpr hsubnormal), if_neg hsubnormal]
    simp only [toNat_implicit]
    rw [dif_pos (by omega)]
    rfl

/-! ## The number of an element -/

/-- The extended-precision number that bits stand for, with the leading digit among its 64 digits. -/
def extendedNumber (bits : ℕ) : UnpackedFloat :=
  let sign := if bits / 2 ^ 79 % 2 = 1 then Sign.negative else .positive
  let exponent := bits / 2 ^ 64 % 2 ^ 15
  let digits := bits % 2 ^ 64
  if exponent = 2 ^ 15 - 1 then if digits = 2 ^ 63 then .infinity sign else .notANumber
  else if 0 < exponent ∧ digits < 2 ^ 63 then .notANumber
  else if h : 0 < digits then .finite sign digits ((max exponent 1 : ℕ) - 16446) h
  else .zero sign

/-- The number that the bits of an element stand for, as it is. -/
def elementNumber (kind : ElementType.Kind) (bits : ℕ) : UnpackedFloat :=
  match kind with
  | .truth => wholeNumber (if bits = 0 then 0 else 1)
  | .signed size => wholeNumber (Int.bmod bits (256 ^ size))
  | .unsigned _ => wholeNumber bits
  | .real 2 => .unpack binary16 (.ofNat 16 bits)
  | .real 4 => .unpack .binary32 (.ofNat 32 bits)
  | .real 8 => .unpack .binary64 (.ofNat 64 bits)
  | .real 16 => extendedNumber bits
  | _ => .notANumber

/-- The kinds of truth values, whole numbers and real numbers. -/
def sampleKinds : List ElementType.Kind :=
  [.truth, .signed 1, .signed 2, .signed 4, .signed 8, .unsigned 1, .unsigned 2, .unsigned 4, .unsigned 8,
    .real 2, .real 4, .real 8, .real 16]

theorem ofExtended_eq_ofUnpacked (bits : ℕ) : ofExtended bits = Sample.ofUnpacked (extendedNumber bits) := by
  simp only [ofExtended, extendedNumber, apply_ite Sample.ofUnpacked, apply_dite Sample.ofUnpacked]
  rfl

/-- A sample is the number of its element, rounded once. -/
theorem sampleOf_eq_ofUnpacked {kind : ElementType.Kind} (hkind : kind ∈ sampleKinds) {bits : ℕ}
    (h : bits < 256 ^ kind.size) : sampleOf kind bits = Sample.ofUnpacked (elementNumber kind bits) := by
  cases kind with
  | truth =>
    rw [elementNumber, Sample.ofUnpacked_wholeNumber, sampleOf]
    rcases Nat.eq_zero_or_pos bits with rfl | hpos
    · rfl
    · rw [if_neg hpos.ne', bne_iff_ne.mpr hpos.ne']
      rfl
  | signed size | unsigned size => exact (Sample.ofUnpacked_wholeNumber _).symm
  | real size =>
    obtain rfl | rfl | rfl | rfl : size = 2 ∨ size = 4 ∨ size = 8 ∨ size = 16 := by
      simpa [sampleKinds] using hkind
    · exact ofHalf_eq_ofUnpacked h
    · exact (Sample.ofUnpacked_unpack _).symm
    · exact congrArg Sample.ofUnpacked (Scalar.unpack_ofBits _)
    · exact ofExtended_eq_ofUnpacked bits
  | complex | byteText | text | raw | moment | span | object => simp [sampleKinds] at hkind

end ArrayFile

end RasterAlgebra
