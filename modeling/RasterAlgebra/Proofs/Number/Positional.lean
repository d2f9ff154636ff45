import RasterAlgebra.Decimal.Text
import RasterAlgebra.Proofs.Number.Reading
import RasterAlgebra.Proofs.Token.Munch

/-!
# Digits by position

Digits with an exponent are a number (`Digits.toRat`), whether zeros at their end are kept or not
(`toRat_trimZeros`). Written by position they are digits with a point among them that are this number
(`writesDecimal_positional`), and such a text is one lexeme (`lexeme?_of_writesDecimal`), which is read as the
float to which the number rounds (`ofLexeme_of_writesDecimal`). Written with an exponent they are not, since
no lexeme of a number goes on behind the first letter (`lexeme?_scientific`).
-/

namespace RasterAlgebra

open Float.Model (Format)
open Decimal (Digits natOfDigits)

variable {x : Scalar} {m n : ℕ} {e unit : ℤ} {q : ℚ} {s whole fraction : List Char} {d : Digits}

/-! ## Values of digits -/

theorem natOfDigits_toDigits (n : ℕ) : natOfDigits (Nat.toDigits 10 n) = n :=
  Nat.ofDigitChars_ten_toDigits

theorem natOfDigits_append_zeros (s : List Char) (z : ℕ) :
    natOfDigits (s ++ List.replicate z '0') = 10 ^ z * natOfDigits s := by
  show Nat.ofDigitChars 10 (s ++ List.replicate z '0') 0 = _
  rw [Nat.ofDigitChars_append, Nat.ofDigitChars_replicate_zero]
  rfl

theorem natOfDigits_zeros_append (s : List Char) (z : ℕ) :
    natOfDigits (List.replicate z '0' ++ s) = natOfDigits s := by
  show Nat.ofDigitChars 10 (List.replicate z '0' ++ s) 0 = _
  rw [Nat.ofDigitChars_append, Nat.ofDigitChars_replicate_zero, Nat.mul_zero]
  rfl

namespace Decimal.Digits

/-- The number that digits with an exponent are. -/
def toRat (d : Digits) : ℚ := natOfDigits d.digits * 10 ^ (d.exponent + 1 - d.digits.length)

/-- All digits are digits, and there is one. -/
structure Proper (d : Digits) : Prop where
  isDigit : ∀ c ∈ d.digits, c.isDigit
  ne_nil : d.digits ≠ []

theorem proper_ofScaled (n : ℕ) (unit : ℤ) : (ofScaled n unit).Proper :=
  ⟨fun _ hc => Nat.isDigit_of_mem_toDigits (by decide) (by decide) hc, Nat.toDigits_ne_nil⟩

theorem toRat_ofScaled (n : ℕ) (unit : ℤ) : (ofScaled n unit).toRat = n * 10 ^ unit := by
  rw [toRat, ofScaled]
  dsimp only
  rw [natOfDigits_toDigits]
  congr 2
  ring

/-- The digits are those that are kept and zeros behind them. -/
theorem exists_trimZeros (d : Digits) :
    (∃ z, d.digits = List.replicate z '0' ∧ d.trimZeros = ⟨['0'], d.exponent⟩) ∨
      ∃ digits z, digits ≠ [] ∧ d.digits = digits ++ List.replicate z '0' ∧
        d.trimZeros = ⟨digits, d.exponent⟩ := by
  have hzeros : d.digits.reverse.takeWhile (· == '0') =
      List.replicate (d.digits.reverse.takeWhile (· == '0')).length '0' := by
    refine List.eq_replicate_iff.mpr ⟨rfl, fun c hc => ?_⟩
    simpa using List.mem_takeWhile_imp hc
  have hsplit : d.digits = (d.digits.reverse.dropWhile (· == '0')).reverse ++
      List.replicate (d.digits.reverse.takeWhile (· == '0')).length '0' := by
    rw [← List.reverse_replicate, ← hzeros, ← List.reverse_append, List.takeWhile_append_dropWhile,
      List.reverse_reverse]
  unfold trimZeros
  split
  · rename_i hnil
    rw [hnil, List.nil_append] at hsplit
    exact .inl ⟨_, hsplit, rfl⟩
  · rename_i hne
    exact .inr ⟨_, _, hne, hsplit, rfl⟩

theorem exponent_trimZeros (d : Digits) : d.trimZeros.exponent = d.exponent := by
  rcases exists_trimZeros d with ⟨z, -, htrim⟩ | ⟨digits, z, -, -, htrim⟩ <;> rw [htrim]

theorem Proper.trimZeros (hd : d.Proper) : d.trimZeros.Proper := by
  rcases exists_trimZeros d with ⟨z, -, htrim⟩ | ⟨digits, z, hne, hdigits, htrim⟩
  · rw [htrim]
    exact ⟨by simp, by simp⟩
  · rw [htrim]
    refine ⟨fun c hc => hd.isDigit c ?_, hne⟩
    rw [hdigits]
    exact List.mem_append_left _ hc

theorem toRat_trimZeros (d : Digits) : d.trimZeros.toRat = d.toRat := by
  rcases exists_trimZeros d with ⟨z, hdigits, htrim⟩ | ⟨digits, z, -, hdigits, htrim⟩
  · have hzero : natOfDigits d.digits = 0 := by
      rw [hdigits, ← List.append_nil (List.replicate z '0'), natOfDigits_zeros_append]
      rfl
    rw [htrim, toRat, toRat, hzero, Nat.cast_zero, zero_mul]
    exact zero_mul _
  · rw [htrim, toRat, toRat, hdigits, natOfDigits_append_zeros, List.length_append,
      List.length_replicate]
    have hplace : d.exponent + 1 - (digits.length : ℤ) =
        z + (d.exponent + 1 - ((digits.length + z : ℕ) : ℤ)) := by
      push_cast
      ring
    dsimp only
    rw [hplace, zpow_add₀ (by norm_num : (10 : ℚ) ≠ 0), zpow_natCast]
    push_cast
    ring

end Decimal.Digits

/-! ## Digits with a point -/

/-- The text is digits with a point among them, and they are the number. -/
structure WritesDecimal (whole fraction : List Char) (q : ℚ) : Prop where
  whole_ne_nil : whole ≠ []
  isDigit_whole : ∀ c ∈ whole, c.isDigit
  isDigit_fraction : ∀ c ∈ fraction, c.isDigit
  value : natOfDigits (whole ++ fraction) * 10 ^ (-(fraction.length : ℤ)) = q

theorem isDigit_of_mem_zeros (z : ℕ) : ∀ c ∈ List.replicate z '0', c.isDigit := by
  intro c hc
  rw [List.eq_of_mem_replicate hc]
  decide

/-- All digits behind the point, after zeros. -/
theorem writesDecimal_of_neg (hd : d.Proper) {z : ℕ} (hz : (z : ℤ) = -d.exponent - 1) :
    WritesDecimal ['0'] (List.replicate z '0' ++ d.digits) d.toRat := by
  refine ⟨by simp, by simp, ?_, ?_⟩
  · rw [List.forall_mem_append]
    exact ⟨isDigit_of_mem_zeros z, hd.isDigit⟩
  · have hvalue : natOfDigits (['0'] ++ (List.replicate z '0' ++ d.digits)) = natOfDigits d.digits :=
      natOfDigits_zeros_append d.digits (z + 1)
    rw [hvalue, List.length_append, List.length_replicate, Decimal.Digits.toRat]
    congr 2
    push_cast
    omega

/-- All digits in front of the point, with zeros after them. -/
theorem writesDecimal_of_whole (hd : d.Proper) {z : ℕ} (hz : (z : ℤ) = d.exponent + 1 - d.digits.length) :
    WritesDecimal (d.digits ++ List.replicate z '0') ['0'] d.toRat := by
  refine ⟨by simp [hd.ne_nil], ?_, by simp, ?_⟩
  · rw [List.forall_mem_append]
    exact ⟨hd.isDigit, isDigit_of_mem_zeros z⟩
  · have hvalue : natOfDigits (d.digits ++ List.replicate z '0' ++ ['0']) =
        10 ^ (z + 1) * natOfDigits d.digits := by
      rw [List.append_assoc]
      exact (congrArg (fun zeros => natOfDigits (d.digits ++ zeros))
        List.replicate_succ'.symm).trans (natOfDigits_append_zeros d.digits (z + 1))
    rw [hvalue, Decimal.Digits.toRat, ← hz, zpow_natCast]
    push_cast
    rw [List.length_singleton, Nat.cast_one, zpow_neg_one, pow_succ]
    field_simp

/-- Digits on either side of the point. -/
theorem writesDecimal_of_split (hd : d.Proper) {z : ℕ} (hz : (z : ℤ) = d.exponent + 1) (hpos : 0 < z)
    (hle : z ≤ d.digits.length) : WritesDecimal (d.digits.take z) (d.digits.drop z) d.toRat := by
  refine ⟨?_, fun c hc => hd.isDigit c (List.mem_of_mem_take hc),
    fun c hc => hd.isDigit c (List.mem_of_mem_drop hc), ?_⟩
  · simp [hd.ne_nil, hpos.ne']
  · rw [List.take_append_drop, List.length_drop, Decimal.Digits.toRat]
    congr 2
    omega

theorem writesDecimal_positional (hd : d.Proper) :
    ∃ whole fraction, (d.positional ".0").toList = whole ++ '.' :: fraction ∧
      WritesDecimal whole fraction d.toRat := by
  unfold Decimal.Digits.positional
  dsimp only
  split
  · refine ⟨['0'], _, ?_, writesDecimal_of_neg hd (z := (-d.exponent).toNat - 1) (by omega)⟩
    rw [String.toList_ofList]
    rfl
  · split
    · refine ⟨_, ['0'], ?_, writesDecimal_of_whole hd (z := d.exponent.toNat + 1 - d.digits.length)
        (by omega)⟩
      rw [String.toList_append, String.toList_ofList]
      rfl
    · exact ⟨_, _, String.toList_ofList, writesDecimal_of_split hd (z := d.exponent.toNat + 1)
        (by omega) (by omega) (by omega)⟩

/-- Digits with a point are one lexeme. -/
theorem lexeme?_of_writesDecimal (h : WritesDecimal whole fraction q) :
    lexeme? (whole ++ '.' :: fraction) =
      some (.number, (whole ++ '.' :: fraction).length) := by
  have hlength : numberLength (whole ++ '.' :: fraction) = (whole ++ '.' :: fraction).length := by
    rw [numberLength_point fun c hc => isDigit_iff.mpr (h.isDigit_whole c hc),
      List.takeWhile_eq_self_iff.mpr h.isDigit_fraction, List.length_append, List.length_cons]
    omega
  obtain ⟨c, rest, rfl⟩ := List.exists_cons_of_ne_nil h.whole_ne_nil
  rw [← hlength]
  exact lexeme?_of_isDigit (h.isDigit_whole c List.mem_cons_self) _

theorem ofLexeme_point (hwhole : ∀ c ∈ whole, c.isDigit) (fraction : List Char) :
    Decimal.ofLexeme (whole ++ '.' :: fraction) =
      Decimal.ofDecimal (natOfDigits (whole ++ fraction)) (-(fraction.length : ℤ)) := by
  have hpoint : ¬ '.'.isDigit := by decide
  rw [Decimal.ofLexeme, List.takeWhile_append_of_pos hwhole, List.dropWhile_append_of_pos hwhole,
    List.takeWhile_cons_of_neg hpoint, List.dropWhile_cons_of_neg hpoint, List.append_nil,
    Decimal.ofParts, zero_sub]
  rfl

/-- They are read as the float to which the number rounds. -/
theorem ofLexeme_of_writesDecimal (h : WritesDecimal whole fraction q) {hm : 0 < m}
    (hx : x.toModel.unpack = .finite .positive m e hm) (hq : RoundsTo .binary64 m e q) :
    Decimal.ofLexeme (whole ++ '.' :: fraction) = x := by
  rw [ofLexeme_point h.isDigit_whole]
  rw [← h.value] at hq
  exact ofDecimal_of_roundsTo hx hq

/-! ## Whole numbers -/

/-- The digits of a whole number are one lexeme, which is read as the number itself. -/
theorem lexeme?_toDigits (n : ℕ) :
    lexeme? (Nat.toDigits 10 n) = some (.number, (Nat.toDigits 10 n).length) := by
  have hdigits : ∀ c ∈ Nat.toDigits 10 n, c.isDigit := fun c hc =>
    Nat.isDigit_of_mem_toDigits (by decide) (by decide) hc
  have hlength : numberLength (Nat.toDigits 10 n) = (Nat.toDigits 10 n).length := by
    rw [numberLength, List.takeWhile_eq_self_iff.mpr hdigits,
      List.dropWhile_eq_nil_iff.mpr hdigits]
    rfl
  obtain ⟨c, rest, hcons⟩ := List.exists_cons_of_ne_nil (Nat.toDigits_ne_nil (b := 10) (n := n))
  rw [← hlength, hcons]
  rw [hcons] at hdigits
  exact lexeme?_of_isDigit (hdigits c List.mem_cons_self) rest

theorem ofLexeme_toDigits (n : ℕ) :
    Decimal.ofLexeme (Nat.toDigits 10 n) = Decimal.ofDecimal n 0 := by
  have hdigits : ∀ c ∈ Nat.toDigits 10 n, c.isDigit := fun c hc =>
    Nat.isDigit_of_mem_toDigits (by decide) (by decide) hc
  rw [Decimal.ofLexeme, List.takeWhile_eq_self_iff.mpr hdigits, List.dropWhile_eq_nil_iff.mpr hdigits,
    Decimal.ofParts, List.drop_nil, List.append_nil, natOfDigits_toDigits]
  rfl

/-! ## Digits with an exponent -/

/-- The lexeme of a number ends in front of an exponent. -/
theorem lexeme?_append_exponent {mantissa : List Char} {c : Char} (hc : c.isDigit)
    (hlength : numberLength (c :: mantissa ++ 'e' :: s) = (c :: mantissa).length) :
    lexeme? (c :: mantissa ++ 'e' :: s) = some (.number, (c :: mantissa).length) :=
  hlength ▸ lexeme?_of_isDigit hc _

/-- Digits with an exponent are the lexeme of a number and more behind it. -/
theorem lexeme?_scientific (hd : d.Proper) :
    ∃ c mantissa rest, d.scientific.toList = c :: (mantissa ++ 'e' :: rest) ∧ c.isDigit ∧
      lexeme? (c :: (mantissa ++ 'e' :: rest)) = some (.number, (c :: mantissa).length) := by
  have hletter : ¬ 'e'.isDigit := by decide
  obtain ⟨digits, exponent⟩ := d
  unfold Decimal.Digits.scientific
  rw [String.toList_ofList]
  match digits, hd with
  | [], hd => exact absurd rfl hd.ne_nil
  | [only], hd =>
    have honly : only.isDigit := hd.isDigit only List.mem_cons_self
    refine ⟨only, [], _, rfl, honly, lexeme?_append_exponent honly ?_⟩
    rw [numberLength, List.cons_append, List.takeWhile_cons_of_pos honly,
      List.dropWhile_cons_of_pos honly, List.nil_append, List.takeWhile_cons_of_neg hletter,
      List.dropWhile_cons_of_neg hletter]
    rfl
  | first :: second :: rest, hd =>
    obtain ⟨hfirst, hrest⟩ := List.forall_mem_cons.mp hd.isDigit
    refine ⟨first, '.' :: second :: rest, _, rfl, hfirst, lexeme?_append_exponent hfirst ?_⟩
    have hdigits : ∀ c ∈ [first], Token.IsDigit c := fun c hc =>
      isDigit_iff.mpr (List.mem_singleton.mp hc ▸ hfirst)
    refine (numberLength_point hdigits (second :: rest ++ 'e' :: _)).trans ?_
    rw [List.takeWhile_append_of_pos hrest, List.takeWhile_cons_of_neg hletter, List.append_nil]
    simp only [List.length_cons, List.length_nil]
    omega

end RasterAlgebra
