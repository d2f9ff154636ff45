import RasterAlgebra.Proofs.Formula.RoundTrip
import RasterAlgebra.Proofs.Number.Positional
import RasterAlgebra.Proofs.Number.Shortest

/-!
# Numbers that formulas can hold

A number is written with all its digits if it is whole, and else with the fewest digits that read back, by
position or with an exponent. The lexemes of formulas have no exponent. So what is written is a numeral
exactly if the number is zero, or finite and at least a ten-thousandth.
-/

namespace RasterAlgebra

open Float.Model (Format UnpackedFloat)
open Decimal (Magnitude Digits shortest)
open Cursor (lexemes lexemes_cons)

variable {x : Scalar} {m n : ℕ} {e k : ℤ} {hm : 0 < m} {q : ℚ}

/-! ## The fewest digits -/

/-- The digits are a number that rounds to the float, and this number starts where they say. -/
structure Decimal.Digits.Shows (d : Digits) (m : ℕ) (e : ℤ) : Prop extends d.Proper where
  roundsTo : RoundsTo .binary64 m e d.toRat
  lower : 10 ^ d.exponent ≤ d.toRat
  upper : d.toRat < 10 ^ (d.exponent + 1)

theorem shortest_shows (hcanonical : Canonical .binary64 m e) (hm : 0 < m) : (shortest m e).Shows m e := by
  obtain ⟨n, unit, heq, hq⟩ := exists_shortestFrom_eq hcanonical hm
  have hn := pos_of_roundsTo hm hq
  have hdigits : shortest m e = (Digits.ofScaled n unit).trimZeros := congrArg Digits.trimZeros heq
  have hten : (10 : ℚ) ≠ 0 := by norm_num
  have hlength : 0 < Magnitude.digitCount n := Nat.length_toDigits_pos
  have hexponent : (shortest m e).exponent = ((Magnitude.digitCount n - 1 : ℕ) : ℤ) + unit := by
    rw [hdigits, Digits.exponent_trimZeros]
    show unit + (Magnitude.digitCount n : ℤ) - 1 = _
    omega
  have hvalue : (shortest m e).toRat = n * 10 ^ unit := by
    rw [hdigits, Digits.toRat_trimZeros, Digits.toRat_ofScaled]
  have hpower : (0 : ℚ) < 10 ^ unit := zpow_pos (by norm_num) unit
  refine ⟨?_, hvalue ▸ hq, ?_, ?_⟩
  · rw [hdigits]
    exact (Digits.proper_ofScaled n unit).trimZeros
  · have hle : ((10 ^ (Magnitude.digitCount n - 1) : ℕ) : ℚ) ≤ n :=
      Nat.cast_le.mpr (Magnitude.pow_digitCount_le hn)
    rw [hexponent, hvalue, zpow_add₀ hten, zpow_natCast]
    push_cast at hle
    gcongr
  · have hlt : (n : ℚ) < ((10 ^ Magnitude.digitCount n : ℕ) : ℚ) :=
      Nat.cast_lt.mpr (Magnitude.lt_pow_digitCount n)
    have hplace : ((Magnitude.digitCount n - 1 : ℕ) : ℤ) + unit + 1 =
        (Magnitude.digitCount n : ℤ) + unit := by omega
    rw [hexponent, hvalue, hplace, zpow_add₀ hten, zpow_natCast]
    push_cast at hlt
    gcongr

/-- The place of the first digit tells which powers of ten are below the number. -/
theorem Decimal.Digits.Shows.le_exponent_iff {d : Digits} (hd : d.Shows m e) (k : ℤ) :
    k ≤ d.exponent ↔ 10 ^ k ≤ d.toRat := by
  have hten : (1 : ℚ) < 10 := by norm_num
  constructor
  · intro hle
    exact (zpow_le_zpow_right₀ hten.le hle).trans hd.lower
  · intro hle
    have hlt := (zpow_lt_zpow_iff_right₀ hten).mp (hle.trans_lt hd.upper)
    omega

/-! ## A ten-thousandth -/

theorem Scalar.le_iff (x y : Scalar) :
    x ≤ y ↔ UnpackedFloat.le x.toModel.unpack y.toModel.unpack = true :=
  decide_eq_true_iff

theorem unpack_tenThousandth :
    (0.0001 : Scalar).toModel.unpack = .finite .positive 7378697629483821 (-66) (by decide) := by
  rfl

/-- Floats are compared by their exponents, and then by their mantissas. -/
theorem tenThousandth_le_iff (hx : x.toModel.unpack = .finite .positive m e hm) :
    (0.0001 : Scalar) ≤ x ↔ -66 < e ∨ -66 = e ∧ 7378697629483821 ≤ m := by
  have hle : (0.0001 : Scalar) ≤ x ↔
      (((compare (-66) e).then (compare 7378697629483821 m)).isLE = true) := by
    rw [Scalar.le_iff, unpack_tenThousandth, hx]
    exact Iff.rfl
  rw [hle]
  rcases hexponent : compare (-66) e with _ | _ | _
  · have hlt := compare_lt_iff_lt.mp hexponent
    simp [hlt]
  · have heq := compare_eq_iff_eq.mp hexponent
    simp [← heq, Ordering.then, Nat.isLE_compare]
  · have hgt := compare_gt_iff_gt.mp hexponent
    simp only [Ordering.then, Ordering.isLE_gt, Bool.false_eq_true, false_iff]
    omega

/-- What rounds to a float from a ten-thousandth on is at least a ten-thousandth, or the float is the one
nearest to it. -/
theorem RoundsTo.le_of_tenThousandth_lt (hcanonical : Canonical .binary64 m e)
    (hq : RoundsTo .binary64 m e q) (hlt : -66 < e ∨ -66 = e ∧ 7378697629483821 < m) :
    10 ^ (-4 : ℤ) ≤ q := by
  have hself : RoundsTo .binary64 7378697629483821 (-66) (10 ^ (-4 : ℤ)) := by
    apply roundsTo_of_abs_lt
    norm_num [halfBelow, abs_lt]
  exact hself.le_of_lt hq (Scalar.canonical unpack_tenThousandth) hcanonical hlt

theorem RoundsTo.lt_of_lt_tenThousandth (hcanonical : Canonical .binary64 m e)
    (hq : RoundsTo .binary64 m e q) (hlt : e < -66 ∨ e = -66 ∧ m < 7378697629483821) :
    q < 10 ^ (-4 : ℤ) := by
  -- the float nearest to a ten-thousandth is above it, but numbers below round to it as well
  have hself : RoundsTo .binary64 7378697629483821 (-66) ((7378697629483821 - 2 / 5) * 2 ^ (-66 : ℤ)) := by
    apply roundsTo_of_abs_lt
    norm_num [halfBelow, abs_lt]
  have hle := hq.le_of_lt hself hcanonical (Scalar.canonical unpack_tenThousandth) hlt
  refine hle.trans_lt ?_
  norm_num

/-! ## Texts of positive numbers -/

/-- A whole number is its sign and a natural number. -/
theorem exists_of_whole? {sign : UnpackedFloat.Sign} (hx : x.toModel.unpack = .finite sign m e hm) {n : ℤ}
    (hwhole : Decimal.whole? x = some n) :
    ∃ k : ℕ, n = sign.apply (k : ℤ) ∧ (m : ℚ) * 2 ^ e = k := by
  rw [Decimal.whole?, hx] at hwhole
  dsimp only at hwhole
  split at hwhole
  · rename_i hmod
    refine ⟨_, (Option.some.inj hwhole).symm, ?_⟩
    have hden : ((Magnitude.ofBinary m e).den : ℚ) ≠ 0 :=
      Nat.cast_ne_zero.mpr (Magnitude.den_ofBinary_pos m e).ne'
    rw [← Magnitude.toRat_ofBinary, Magnitude.toRat, div_eq_iff hden]
    exact_mod_cast (Nat.div_mul_cancel (Nat.dvd_of_mod_eq_zero hmod)).symm
  · cases hwhole

/-- What is no whole number is written with the fewest digits. -/
theorem numberText_eq_renderWith (hwhole : Decimal.whole? x = none) :
    numberText x = Decimal.renderWith .exact shortest x := by
  rw [numberText, hwhole]
  rfl

/-- A positive whole number is written with all its digits. -/
theorem numberText_of_whole (hx : x.toModel.unpack = .finite .positive m e hm) {n : ℤ}
    (hwhole : Decimal.whole? x = some n) :
    ∃ k : ℕ, (numberText x).toList = Nat.toDigits 10 k ∧ (m : ℚ) * 2 ^ e = k := by
  obtain ⟨k, rfl, hvalue⟩ := exists_of_whole? hx hwhole
  refine ⟨k, ?_, hvalue⟩
  rw [numberText, hwhole]
  exact Nat.toList_repr

/-- Any other positive number is written with the fewest digits. -/
theorem numberText_of_fraction (hx : x.toModel.unpack = .finite .positive m e hm)
    (hwhole : Decimal.whole? x = none) :
    numberText x = Decimal.Layout.exact.render (shortest m e) ∧ e < 0 := by
  refine ⟨?_, ?_⟩
  · rw [numberText_eq_renderWith hwhole, Decimal.renderWith, hx]
    exact String.empty_append
  · by_contra hnonneg
    have hden : (Magnitude.ofBinary m e).den = 1 := by
      rw [Magnitude.ofBinary, if_pos (not_lt.mp hnonneg)]
    rw [Decimal.whole?, hx] at hwhole
    dsimp only at hwhole
    rw [hden, if_pos (Nat.mod_one _)] at hwhole
    cases hwhole

/-- Numbers with places behind the point are small enough to be written by position. -/
theorem exponent_lt_of_fraction {d : Digits} (hd : d.Shows m e) (hcanonical : Canonical .binary64 m e)
    (he : e < 0) : d.exponent < 16 := by
  by_contra hlarge
  have hle := (hd.le_exponent_iff 16).mp (not_lt.mp hlarge)
  have hlt : d.toRat < 2 ^ (e + 53) := hd.roundsTo.lt_two_zpow hcanonical
  have hpower : (2 : ℚ) ^ (e + 53) ≤ 2 ^ (52 : ℤ) := zpow_le_zpow_right₀ one_le_two (by omega)
  have hbound : (2 : ℚ) ^ (52 : ℤ) < 10 ^ (16 : ℤ) := by norm_num
  linarith

/-- From a ten-thousandth on, a number is written as a numeral. -/
theorem isNumeral_of_le (hx : x.toModel.unpack = .finite .positive m e hm)
    (hle : (0.0001 : Scalar) ≤ x) : IsNumeral x := by
  have hcanonical := Scalar.canonical hx
  cases hwhole : Decimal.whole? x with
  | some n =>
    obtain ⟨k, htext, hvalue⟩ := numberText_of_whole hx hwhole
    rw [IsNumeral, ← String.length_toList, htext]
    refine ⟨lexeme?_toDigits k, ?_⟩
    rw [ofLexeme_toDigits]
    apply ofDecimal_of_roundsTo hx
    rw [zpow_zero, mul_one, ← hvalue]
    exact roundsTo_self .binary64 m e
  | none =>
    obtain ⟨htext, he⟩ := numberText_of_fraction hx hwhole
    have hd := shortest_shows hcanonical hm
    have hlimit := exponent_lt_of_fraction hd hcanonical he
    have hleast : -4 ≤ (shortest m e).exponent := by
      -- numbers below a ten-thousandth round to the float nearest to it, so its digits are computed
      rcases (tenThousandth_le_iff hx).mp hle with hlt | ⟨heq, hle⟩
      · exact (hd.le_exponent_iff _).mpr (hd.roundsTo.le_of_tenThousandth_lt hcanonical (.inl hlt))
      · rcases hle.lt_or_eq with hlt | rfl
        · exact (hd.le_exponent_iff _).mpr
            (hd.roundsTo.le_of_tenThousandth_lt hcanonical (.inr ⟨heq, hlt⟩))
        · obtain rfl := heq
          decide +kernel
    have hrender : Decimal.Layout.exact.render (shortest m e) = (shortest m e).positional ".0" :=
      if_pos (by simp [Decimal.Layout.exact, hleast, hlimit])
    obtain ⟨whole, fraction, hpositional, hwrites⟩ := writesDecimal_positional hd.toProper
    rw [IsNumeral, ← String.length_toList, htext, hrender, hpositional]
    exact ⟨lexeme?_of_writesDecimal hwrites, ofLexeme_of_writesDecimal hwrites hx hd.roundsTo⟩

/-- Below a ten-thousandth, a number is written with an exponent. -/
theorem numberText_of_lt (hx : x.toModel.unpack = .finite .positive m e hm)
    (hlt : ¬ (0.0001 : Scalar) ≤ x) : numberText x = (shortest m e).scientific := by
  have hcanonical := Scalar.canonical hx
  have hd := shortest_shows hcanonical hm
  have hbelow : e < -66 ∨ e = -66 ∧ m < 7378697629483821 := by
    rw [tenThousandth_le_iff hx] at hlt
    omega
  cases hwhole : Decimal.whole? x with
  | some n =>
    -- a positive whole number is at least one
    obtain ⟨k, -, hvalue⟩ := numberText_of_whole hx hwhole
    have hsmall := (roundsTo_self .binary64 m e).lt_of_lt_tenThousandth hcanonical hbelow
    have hpos : (0 : ℚ) < m * 2 ^ e := mul_pos (Nat.cast_pos.mpr hm) (two_zpow_pos e)
    rw [hvalue] at hsmall hpos
    have hone : (1 : ℚ) ≤ k := by exact_mod_cast hpos
    norm_num at hsmall
    linarith
  | none =>
    obtain ⟨htext, -⟩ := numberText_of_fraction hx hwhole
    have hexponent : ¬ -4 ≤ (shortest m e).exponent := by
      rw [hd.le_exponent_iff, not_le]
      exact hd.roundsTo.lt_of_lt_tenThousandth hcanonical hbelow
    rw [htext]
    exact if_neg (by simp [Decimal.Layout.exact, hexponent])

/-! ## Texts of other numbers -/

/-- A finite number that is not below a ten-thousandth is positive. -/
theorem exists_unpack_of_le (hle : (0.0001 : Scalar) ≤ x) (hfinite : x.isFinite) :
    ∃ m e hm, x.toModel.unpack = .finite .positive m e hm := by
  have hfinite' : x.toModel.unpack.isFinite := hfinite
  rw [Scalar.le_iff, unpack_tenThousandth] at hle
  cases hunpack : x.toModel.unpack with
  | infinity | notANumber =>
    rw [hunpack] at hfinite'
    cases hfinite'
  | zero sign =>
    rw [hunpack] at hle
    cases hle
  | finite sign m e hm =>
    cases sign with
    | positive => exact ⟨m, e, hm, rfl⟩
    | negative =>
      rw [hunpack] at hle
      cases hle

/-- Negative numbers have a sign in front of them. -/
theorem numberText_of_negative (hx : x.toModel.unpack = .finite .negative m e hm) :
    ∃ rest, (numberText x).toList = '-' :: rest := by
  cases hwhole : Decimal.whole? x with
  | some n =>
    obtain ⟨k, rfl, hvalue⟩ := exists_of_whole? hx hwhole
    have hpos : (0 : ℚ) < m * 2 ^ e := mul_pos (Nat.cast_pos.mpr hm) (two_zpow_pos e)
    rw [hvalue, Nat.cast_pos] at hpos
    obtain ⟨j, rfl⟩ := Nat.exists_eq_succ_of_ne_zero hpos.ne'
    rw [numberText, hwhole]
    show ∃ rest, (toString (Int.negSucc j)).toList = '-' :: rest
    exact ⟨_, String.toList_append⟩
  | none =>
    rw [numberText_eq_renderWith hwhole, Decimal.renderWith, hx]
    exact ⟨_, String.toList_append⟩

theorem numberText_of_notANumber (hx : x.toModel.unpack = .notANumber) : numberText x = "nan" := by
  have hwhole : Decimal.whole? x = none := by rw [Decimal.whole?, hx]
  rw [numberText_eq_renderWith hwhole, Decimal.renderWith, hx]

theorem numberText_of_infinity {sign : UnpackedFloat.Sign} (hx : x.toModel.unpack = .infinity sign) :
    numberText x = Decimal.signText sign ++ "inf" := by
  have hwhole : Decimal.whole? x = none := by rw [Decimal.whole?, hx]
  rw [numberText_eq_renderWith hwhole, Decimal.renderWith, hx]

/-- The sign of a zero is not written. -/
theorem numberText_of_zero {sign : UnpackedFloat.Sign} (hx : x.toModel.unpack = .zero sign) :
    numberText x = "0" := by
  have hwhole : Decimal.whole? x = some 0 := by rw [Decimal.whole?, hx]
  rw [numberText, hwhole]
  rfl

/-! ## What is read in the texts of numbers -/

/-- Zero, and the finite numbers that are not below a ten-thousandth. -/
def IsPlain (x : Scalar) : Prop := x = 0 ∨ (0.0001 : Scalar) ≤ x ∧ x.isFinite

instance (x : Scalar) : Decidable (IsPlain x) := inferInstanceAs (Decidable (_ ∨ _))

/-- The text of the number has one token, and this token is read as the number. -/
def ReadsBack (x : Scalar) : Prop :=
  ∃ t, tokenize (numberText x) = [t, .endOfText (numberText x).length] ∧ t.kind = .number ∧
    Decimal.ofLexeme t.text.toList = x

/-- Something is read in the text of the number, and it is not the number alone. -/
structure Misreads (x : Scalar) : Prop where
  head : (numberText x).toList.head? ≠ some '='
  symbols : ∀ i, ∃ first rest,
    (lexemes ⟨i, (numberText x).toList⟩).filterMap Token.symbol? = first :: rest ∧
      first :: rest ≠ [.leaf (.number x)]

theorem IsNumeral.readsBack (h : IsNumeral x) : ReadsBack x := by
  refine ⟨⟨.number, numberText x, 0, 0 + (numberText x).length⟩, ?_, rfl, h.2⟩
  rw [tokenize_eq, lexemes_of_lexeme?_length (by decide) h.1]
  exact List.singleton_append

theorem symbol?_number (s : String) (i j : ℕ) :
    Token.symbol? ⟨.number, s, i, j⟩ = some (.leaf (.number (Decimal.ofLexeme s.toList))) := rfl

theorem symbol?_ident (s : String) (i j : ℕ) :
    Token.symbol? ⟨.ident, s, i, j⟩ = some (.leaf (.band s)) := rfl

theorem Misreads.not_readsBack (h : Misreads x) : ¬ ReadsBack x := by
  rintro ⟨⟨kind, s, i, j⟩, htokens, rfl, hvalue⟩
  obtain ⟨first, rest, hsymbols, hne⟩ := h.symbols 0
  rw [tokenize_eq] at htokens
  have hlexemes : lexemes ⟨0, (numberText x).toList⟩ = [⟨.number, s, i, j⟩] :=
    List.append_cancel_right htokens
  rw [hlexemes, List.filterMap_cons_some (symbol?_number s i j), hvalue] at hsymbols
  exact hne hsymbols.symm

/-- A number in whose text the first lexeme is another symbol, or is followed by one. -/
theorem misreads_of_lexeme? {c : Char} {s : List Char} {kind : Token.Kind} {first : Node.Symbol}
    (htext : (numberText x).toList = c :: s) (hc : c ≠ '=')
    (hlexeme : lexeme? (c :: s) = some (kind, n)) (hkind : kind ≠ .illegal)
    (hfirst : ∀ i, Token.symbol? ⟨kind, String.ofList ((c :: s).take n), i, i + n⟩ = some first)
    (hrest : first = .leaf (.number x) →
      ∀ i, (lexemes ⟨i, (c :: s).drop n⟩).filterMap Token.symbol? ≠ []) : Misreads x := by
  refine ⟨by simp [htext, hc], fun i => ?_⟩
  refine ⟨first, (lexemes ⟨i + n, (c :: s).drop n⟩).filterMap Token.symbol?, ?_, ?_⟩
  · rw [htext, lexemes_cons i (isBlank_eq_false_of_lexeme? hlexeme hkind) hlexeme]
    exact List.filterMap_cons_some (hfirst i)
  · intro heq
    obtain ⟨hnumber, hnil⟩ := List.cons.inj heq
    exact hrest hnumber _ hnil

/-- A number whose text starts with a sign. -/
theorem misreads_of_minus {s : List Char} (h : (numberText x).toList = '-' :: s) : Misreads x := by
  have hlexeme : lexeme? ('-' :: s) = some (.minus, 1) := rfl
  have hfirst (i : ℕ) : Token.symbol? ⟨.minus, "-", i, i + 1⟩ = some (.operator "-") := rfl
  exact misreads_of_lexeme? h (by decide) hlexeme (by decide) hfirst nofun

/-- A number whose text is a word. -/
theorem misreads_of_ident {c : Char} {s : List Char} (h : (numberText x).toList = c :: s)
    (hc : c ≠ '=') (hword : lexeme? (c :: s) = some (.ident, (c :: s).length)) : Misreads x :=
  misreads_of_lexeme? h hc hword (by decide) (fun _ => symbol?_ident ..) nofun

/-- A number whose text has an exponent. -/
theorem misreads_of_scientific {d : Digits} (hd : d.Proper) (h : numberText x = d.scientific) :
    Misreads x := by
  obtain ⟨c, mantissa, rest, htext, hc, hlexeme⟩ := lexeme?_scientific hd
  rw [← h] at htext
  refine misreads_of_lexeme? htext (ne_equal_of_isWordPart (isWordPart_of_isDigit hc)).1 hlexeme
    (by decide) (fun _ => symbol?_number ..) ?_
  -- the exponent starts another lexeme, which is a word
  intro _ i
  have hdrop : (c :: (mantissa ++ 'e' :: rest)).drop (c :: mantissa).length = 'e' :: rest :=
    List.drop_left' rfl
  have hword : Token.Kind.ofWord (('e' :: rest).take (1 + wordLength rest)) = .ident := by
    rw [Nat.add_comm, List.take_succ_cons]
    exact (if_neg (by simp)).trans (if_neg (by simp))
  have hlexeme := lexeme?_of_isWordStart (c := 'e') (by decide) rest
  rw [hword] at hlexeme
  rw [hdrop, lexemes_cons i (by decide) hlexeme, List.filterMap_cons_some (symbol?_ident ..)]
  exact List.cons_ne_nil _ _

theorem misreads_of_not_isPlain (h : ¬ IsPlain x) : Misreads x := by
  cases hx : x.toModel.unpack with
  | notANumber =>
    have hlist : (numberText x).toList = ['n', 'a', 'n'] := by rw [numberText_of_notANumber hx]; rfl
    exact misreads_of_ident hlist (by decide) rfl
  | infinity sign =>
    have htext := numberText_of_infinity hx
    cases sign with
    | positive =>
      have hlist : (numberText x).toList = ['i', 'n', 'f'] := by rw [htext]; rfl
      exact misreads_of_ident hlist (by decide) rfl
    | negative =>
      have hlist : (numberText x).toList = ['-', 'i', 'n', 'f'] := by rw [htext]; rfl
      exact misreads_of_minus hlist
  | zero sign =>
    have hlist : (numberText x).toList = ['0'] := by rw [numberText_of_zero hx]; rfl
    have hlexeme : lexeme? ['0'] = some (.number, 1) := rfl
    refine misreads_of_lexeme? hlist (by decide) hlexeme (by decide) (fun _ => symbol?_number ..) ?_
    intro heq
    have hzero : Decimal.ofLexeme ['0'] = 0 := by decide +kernel
    obtain rfl : 0 = x := by simpa [hzero] using heq
    exact absurd (.inl rfl) h
  | finite sign m e hm =>
    cases sign with
    | negative =>
      obtain ⟨rest, htext⟩ := numberText_of_negative hx
      exact misreads_of_minus htext
    | positive =>
      have hfinite : x.isFinite := by
        show x.toModel.unpack.isFinite = true
        rw [hx]
        rfl
      have hbelow : ¬ (0.0001 : Scalar) ≤ x := fun hle => h (.inr ⟨hle, hfinite⟩)
      exact misreads_of_scientific (shortest_shows (Scalar.canonical hx) hm).toProper
        (numberText_of_lt hx hbelow)

theorem IsPlain.isNumeral (h : IsPlain x) : IsNumeral x := by
  rcases h with rfl | ⟨hle, hfinite⟩
  · exact ⟨by decide +kernel, by decide +kernel⟩
  · obtain ⟨m, e, hm, hx⟩ := exists_unpack_of_le hle hfinite
    exact isNumeral_of_le hx hle

/-- A number is read back from its text exactly if it is zero, or finite and not below a
ten-thousandth. -/
theorem readsBack_iff_isPlain (x : Scalar) : ReadsBack x ↔ IsPlain x := by
  refine ⟨?_, fun h => h.isNumeral.readsBack⟩
  intro h
  by_contra hplain
  exact (misreads_of_not_isPlain hplain).not_readsBack h

end RasterAlgebra
