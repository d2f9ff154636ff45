import Mathlib.Data.Int.Bitwise
import Mathlib.Data.Int.ModEq
import RasterAlgebra.Algebra
import RasterAlgebra.Proofs.Grid.Gather
import RasterAlgebra.Proofs.Number.Exact
import RasterAlgebra.Proofs.Number.Packing

/-!
# Testing bits, cell by cell

A bit test takes the word of a cell and the word of the scalar (`wordBits`) and marks the cell where the two
share a bit. Every bit of a word is that of the whole number it comes from, negative numbers included
(`testBit_wordBits`), so words are compared bit by bit.

* `bitTest_words`: cells up to the limit of `cellInteger`, which covers all 16-bit numbers.
* `bitTest_beyond_limit`: cells beyond it are cut to the limit before their word is taken. No bit of the
  limit is in its word, so such a cell is never marked, whatever its own word is
  (`not_bitTest_beyond_limit`).
-/

namespace RasterAlgebra

open Float.Model (UnpackedFloat)
open Float.Model.UnpackedFloat (Sign)

/-- The word of a number: without its fraction, and modulo `2 ^ 16`. -/
def wordBits (q : ℚ) : ℕ := (towardZero q % 2 ^ 16).toNat

/-- A mask marks a cell by the sample 1. -/
def Grid.Marks (mask : Grid) (x y : ℤ) : Prop := mask.cell x y = .ok 1

/-- The cell is no number, or a number up to `2 ^ 30` in magnitude. -/
def Sample.WithinLimit (c : Sample) : Prop :=
  c.isNaN ∨ c.isFinite ∧ |Sample.value c| ≤ 2 ^ 30

/-! ## Bits of residues -/

/-- The low bits of a whole number are those of the number. -/
theorem testBit_toNat_emod (n : ℤ) (k i : ℕ) :
    (n % 2 ^ k).toNat.testBit i = (decide (i < k) && n.testBit i) := by
  cases n with
  | ofNat m =>
    have hmod : ((m : ℤ) % 2 ^ k).toNat = m % 2 ^ k := by
      rw [show ((2 : ℤ) ^ k) = ((2 ^ k : ℕ) : ℤ) by push_cast; rfl, ← Int.natCast_mod, Int.toNat_natCast]
    show ((m : ℤ) % 2 ^ k).toNat.testBit i = (decide (i < k) && m.testBit i)
    rw [hmod, Nat.testBit_mod_two_pow]
  | negSucc m =>
    -- the residue of `-(m + 1)` is the complement of that of `m`
    have hlt : m % 2 ^ k < 2 ^ k := Nat.mod_lt _ (Nat.two_pow_pos k)
    have hmod : (Int.negSucc m % 2 ^ k).toNat = 2 ^ k - (m % 2 ^ k + 1) := by
      rw [show ((2 : ℤ) ^ k) = ((2 ^ k : ℕ) : ℤ) by push_cast; rfl,
        Int.negSucc_emod _ (by exact_mod_cast Nat.two_pow_pos k), ← Int.natCast_mod]
      omega
    show _ = (decide (i < k) && !m.testBit i)
    rw [hmod, Nat.testBit_two_pow_sub_succ hlt, Nat.testBit_mod_two_pow]
    cases decide (i < k) <;> simp

/-- Two numbers share a bit if there is a place where both have one. -/
theorem land_ne_zero_iff (m n : ℕ) : m &&& n ≠ 0 ↔ ∃ i, m.testBit i ∧ n.testBit i := by
  constructor
  · intro h
    obtain ⟨i, hi⟩ := Nat.exists_testBit_of_ne_zero h
    rw [Nat.testBit_and, Bool.and_eq_true] at hi
    exact ⟨i, hi⟩
  · rintro ⟨i, hm, hn⟩ hzero
    have hi : (m &&& n).testBit i := by rw [Nat.testBit_and, hm, hn, Bool.and_true]
    rw [hzero, Nat.zero_testBit] at hi
    exact Bool.false_ne_true hi

/-- A word has the low sixteen bits of the number without its fraction. -/
theorem testBit_wordBits (q : ℚ) (i : ℕ) :
    (wordBits q).testBit i = (decide (i < 16) && (towardZero q).testBit i) :=
  testBit_toNat_emod (towardZero q) 16 i

/-- Words share a bit with the union of two words where they share one with either. -/
theorem land_wordBits_lor {q q₁ q₂ : ℚ} (h : towardZero q = (towardZero q₁).lor (towardZero q₂)) (n : ℕ) :
    n &&& wordBits q ≠ 0 ↔ n &&& wordBits q₁ ≠ 0 ∨ n &&& wordBits q₂ ≠ 0 := by
  simp only [land_ne_zero_iff, testBit_wordBits, h, Int.testBit_lor, Bool.and_or_distrib_left,
    Bool.or_eq_true, and_or_left, exists_or]

/-! ## Cells -/

/-- Without its fraction a number stays below every whole number that it was below. -/
theorem towardZero_le {q : ℚ} {n : ℕ} (h : q ≤ n) : towardZero q ≤ n := by
  unfold towardZero
  split
  · exact Int.floor_le_iff.mpr (by push_cast; linarith)
  · exact Int.ceil_le.mpr (by exact_mod_cast h)

theorem le_towardZero {q : ℚ} {n : ℕ} (h : n ≤ q) : n ≤ towardZero q := by
  have hn : (0 : ℚ) ≤ n := Nat.cast_nonneg n
  rw [towardZero, if_pos (by linarith)]
  exact Int.le_floor.mpr (by exact_mod_cast h)

theorem neg_le_towardZero {q : ℚ} {n : ℕ} (h : -q ≤ n) : -(n : ℤ) ≤ towardZero q := by
  have hle := towardZero_le h
  rw [towardZero_neg] at hle
  omega

theorem towardZero_le_neg {q : ℚ} {n : ℕ} (h : n ≤ -q) : towardZero q ≤ -(n : ℤ) := by
  have hle := le_towardZero h
  rw [towardZero_neg] at hle
  omega

/-- The whole number of a finite cell is kept between two limits. -/
theorem cellInteger_of_isFinite {c : Sample} (h : c.isFinite) :
    cellInteger c = max (-cellLimit) (min cellLimit (towardZero (Sample.value c))) := by
  have hfinite : c.toModel.unpack.isFinite := h
  unfold cellInteger Sample.value
  rw [← wholePart_eq_towardZero]
  generalize c.toModel.unpack = u at hfinite ⊢
  cases u with
  | infinity => exact absurd hfinite Bool.false_ne_true
  | notANumber | zero | finite => rfl

/-- Up to the limit, the whole number of a cell is the cell without its fraction. -/
theorem cellInteger_of_withinLimit {c : Sample} (h : c.WithinLimit) :
    cellInteger c = towardZero (Sample.value c) := by
  rcases h with hnan | ⟨hfinite, hle⟩
  · have hmodel : c.toModel.unpack.isNaN := hnan
    unfold cellInteger Sample.value
    generalize c.toModel.unpack = u at hmodel ⊢
    cases u with
    | notANumber => rfl
    | infinity | zero | finite => exact absurd hmodel Bool.false_ne_true
  · obtain ⟨hlower, hupper⟩ := abs_le.mp hle
    have hmax := towardZero_le (n := 2 ^ 30) (by push_cast; exact hupper)
    have hmin := neg_le_towardZero (n := 2 ^ 30) (by push_cast; linarith)
    rw [cellInteger_of_isFinite hfinite, cellLimit]
    omega

/-- Beyond the limit, the whole number of a cell is the limit, on the side on which the cell is. -/
theorem cellInteger_of_limit_lt {c : Sample} (hfinite : c.isFinite) (h : 2 ^ 30 < |Sample.value c|) :
    cellInteger c = cellLimit ∨ cellInteger c = -cellLimit := by
  rw [cellInteger_of_isFinite hfinite, cellLimit]
  rcases lt_abs.mp h with hpos | hneg
  · have hle := le_towardZero (n := 2 ^ 30) (q := Sample.value c) (by push_cast; exact hpos.le)
    left
    omega
  · have hle := towardZero_le_neg (n := 2 ^ 30) (q := Sample.value c) (by push_cast; exact hneg.le)
    right
    omega

theorem Sample.zero_ne_one : (0 : Sample) ≠ 1 := by decide +kernel

/-- Within the limits, a cell shares a bit with a word if the bits of its number do. -/
theorem sharesBit_of_withinLimit {c : Sample} (h : c.WithinLimit) (word : ℕ) :
    sharesBit c word ↔ wordBits (Sample.value c) &&& word ≠ 0 := by
  rw [sharesBit, cellInteger_of_withinLimit h]
  exact bne_iff_ne

/-- The limit has no bit that a word can have. -/
theorem sharesBit_of_limit_lt {c : Sample} (hfinite : c.isFinite) (h : 2 ^ 30 < |Sample.value c|)
    (word : ℕ) : sharesBit c word = false := by
  have hzero : wordOf (cellInteger c) = 0 := by
    rcases cellInteger_of_limit_lt hfinite h with hcell | hcell <;> rw [hcell] <;> rfl
  rw [sharesBit, hzero, Nat.zero_and]
  rfl

/-- From `2 ^ 39` on, samples are multiples of `2 ^ 16`. -/
theorem wordBits_of_le {c : Sample} (h : 2 ^ 39 ≤ |Sample.value c|) : wordBits (Sample.value c) = 0 := by
  unfold Sample.value at h ⊢
  cases hunpack : c.toModel.unpack with
  | infinity | notANumber | zero => rfl
  | finite sign m e hm =>
    have hlt : m < 2 ^ 24 := (Sample.canonical hunpack).mantissa_lt
    have habs : |exactValue (.finite sign m e hm)| = m * 2 ^ e := by
      rw [exactValue, abs_mul, abs_of_pos (zpow_pos (by norm_num : (0 : ℚ) < 2) e)]
      cases sign <;> simp [Sign.apply]
    -- the mantissa has 24 bits, so the rest of the magnitude comes from the exponent
    have he : 15 < e := by
      rw [hunpack, habs] at h
      have hm' : (m : ℚ) < 2 ^ 24 := by exact_mod_cast hlt
      have hpos : (0 : ℚ) < 2 ^ e := zpow_pos (by norm_num) e
      have hlarge : (2 : ℚ) ^ (15 : ℤ) < 2 ^ e := by
        norm_num at h ⊢
        nlinarith
      exact (zpow_lt_zpow_iff_right₀ (by norm_num)).mp hlarge
    obtain ⟨k, rfl⟩ : ∃ k : ℕ, e = k + 16 := ⟨(e - 16).toNat, by omega⟩
    have hint : exactValue (.finite sign m (k + 16) hm) = ((sign.apply m * 2 ^ k * 2 ^ 16 : ℤ) : ℚ) := by
      rw [exactValue, zpow_add₀ (by norm_num : (2 : ℚ) ≠ 0), zpow_natCast, Int.cast_mul, Int.cast_mul]
      push_cast
      ring
    rw [wordBits, hint, towardZero_intCast, Int.mul_emod_left]
    rfl

/-! ## Grids -/

/-- The marks of a grid of words, for any scalar that has a word. -/
def Grid.marked (q : Grid) (word : ℕ) : Grid := q.map .boolean fun c => .ofBool (sharesBit c word)

/-- A bit test of words with a finite scalar marks cells. -/
theorem bitTest_eq_marked {q : Grid} (hq : q.cellType = .uint16 ∨ q.cellType = .int16) {s : Scalar}
    (hs : s.isFinite) : bitTest q s = .raster (q.marked (wordBits (Scalar.value s))) := by
  have hword : q.cellType.isWord := by rcases hq with hq | hq <;> rw [hq] <;> rfl
  rw [bitTest, if_neg (by simp [hword]), if_neg (by simp [hs]), wholePart_eq_towardZero]
  rfl

namespace Grid

/-- A cell is marked because of its own sample. -/
theorem cell_marked (q : Grid) (word : ℕ) (x y : ℤ) :
    (q.marked word).cell x y = (q.cell x y).map fun c => .ofBool (sharesBit c word) :=
  q.cell_map .boolean _ x y

theorem ofBool_eq_one_iff (b : Bool) : Sample.ofBool b = 1 ↔ b = true := by
  cases b <;> decide +kernel

/-- A cell is marked if it is one of the grid and shares a bit. -/
theorem marks_marked_iff (q : Grid) (word : ℕ) (x y : ℤ) :
    (q.marked word).Marks x y ↔ ∃ c, q.cell x y = .ok c ∧ sharesBit c word := by
  rw [Marks, cell_marked]
  cases q.cell x y with
  | error e => simp [Except.map]
  | ok c =>
    show Except.ok (Sample.ofBool (sharesBit c word)) = Except.ok 1 ↔ _
    rw [Except.ok.injEq, ofBool_eq_one_iff]
    simp

/-- A mark puts the no-data value into a cell. -/
theorem maskCell_ofBool (noData c : Sample) (b : Bool) :
    maskCell noData c (.ofBool b) = if b then noData else c := by
  have hone : ((1 : Sample) == 1) = true := by decide +kernel
  have hzero : ((0 : Sample) == 1) = false := by decide +kernel
  cases b with
  | true => exact if_pos hone
  | false => exact if_neg (by rw [show (Sample.ofBool false) = 0 from rfl, hzero]; exact Bool.false_ne_true)

end Grid

/-- Masking by marks puts the no-data value where a mark is, and nowhere else. -/
theorem applyMask_marked {a q : Grid} (same : a.SameExtents q) (word : ℕ) :
    ∃ b, applyMask a (q.marked word) = .raster b ∧ b.cellType = a.cellType ∧
      b.width = a.width ∧ b.height = a.height ∧ b.noData = a.noData ∧
      ∀ x y, ((q.marked word).Marks x y → b.cell x y = .ok a.noDataSample) ∧
        (¬ (q.marked word).Marks x y → b.cell x y = a.cell x y) := by
  have same' : a.SameExtents (q.marked word) := same
  refine ⟨a.zipWith (q.marked word) same' a.cellType (maskCell a.noDataSample), ?_, rfl, rfl, rfl,
    rfl, ?_⟩
  · rw [applyMask, dif_pos same']
    exact if_pos rfl
  · intro x y
    rw [Grid.cell_zipWith, Grid.cell_marked, Grid.marks_marked_iff]
    by_cases h : 0 ≤ x ∧ x < a.width ∧ 0 ≤ y ∧ y < a.height
    · obtain ⟨_, _, hcell⟩ := a.cell_eq_ok h
      obtain ⟨_, _, hcell'⟩ := q.cell_eq_ok (x := x) (y := y) (by rwa [← same.1, ← same.2])
      rw [hcell, hcell']
      simp only [Except.bind, Except.map, Except.ok.injEq, exists_eq_left', Grid.maskCell_ofBool]
      exact ⟨fun hshares => if_pos hshares, fun hshares => if_neg hshares⟩
    · have h' : ¬ (0 ≤ x ∧ x < q.width ∧ 0 ≤ y ∧ y < q.height) := by rwa [← same.1, ← same.2]
      rw [a.cell_eq_error h, q.cell_eq_error h']
      simp [Except.bind]

/-! ## Bit tests -/

/-- A grid of words is tested against any scalar that has a word. Up to the limit, a cell is marked exactly
if its word shares a bit with that of the scalar. The marks do not depend on whether the words have a sign,
nor on anything of the scalar but its word; where one scalar has the bits of two others, it marks what
either of them marks. Masking by the marks takes out the marked cells and no others. -/
theorem bitTest_words {q : Grid} (hq : q.cellType = .uint16 ∨ q.cellType = .int16) {s : Scalar}
    (hs : s.isFinite) :
    ∃ r, bitTest q s = .raster r ∧
      (r.cellType = .boolean ∧ r.width = q.width ∧ r.height = q.height ∧ r.noData = q.noData) ∧
      (∀ x y c, q.cell x y = .ok c → c.WithinLimit →
        r.cell x y =
          .ok (if wordBits (Sample.value c) &&& wordBits (Scalar.value s) ≠ 0 then 1 else 0)) ∧
      (∀ type, type = .uint16 ∨ type = .int16 → bitTest { q with cellType := type } s = .raster r) ∧
      (∀ s', s'.isFinite →
        towardZero (Scalar.value s') ≡ towardZero (Scalar.value s) [ZMOD 2 ^ 16] →
        bitTest q s' = .raster r) ∧
      (∀ s₁ s₂, s₁.isFinite → s₂.isFinite →
        towardZero (Scalar.value s) =
          (towardZero (Scalar.value s₁)).lor (towardZero (Scalar.value s₂)) →
        ∃ r₁ r₂, bitTest q s₁ = .raster r₁ ∧ bitTest q s₂ = .raster r₂ ∧
          ∀ x y, r.Marks x y ↔ r₁.Marks x y ∨ r₂.Marks x y) ∧
      ∀ policy a, a.SameExtents q →
        ∃ b, Value.binary policy "#" (.raster a) (.raster r) = .raster b ∧ b.cellType = a.cellType ∧
          b.width = a.width ∧ b.height = a.height ∧ b.noData = a.noData ∧
          ∀ x y, (r.Marks x y → b.cell x y = .ok a.noDataSample) ∧
            (¬ r.Marks x y → b.cell x y = a.cell x y) := by
  refine ⟨_, bitTest_eq_marked hq hs, ⟨rfl, rfl, rfl, rfl⟩, ?_, ?_, ?_, ?_, ?_⟩
  · intro x y c hcell hlimit
    rw [Grid.cell_marked, hcell]
    show Except.ok (Sample.ofBool _) = _
    by_cases hshares : wordBits (Sample.value c) &&& wordBits (Scalar.value s) ≠ 0
    · rw [if_pos hshares, (sharesBit_of_withinLimit hlimit _).mpr hshares]
      rfl
    · rw [if_neg hshares, Bool.eq_false_iff.mpr (mt (sharesBit_of_withinLimit hlimit _).mp hshares)]
      rfl
  · intro type htype
    exact bitTest_eq_marked (q := { q with cellType := type }) htype hs
  · intro s' hs' hcongr
    have hword : wordBits (Scalar.value s') = wordBits (Scalar.value s) :=
      congrArg Int.toNat hcongr
    rw [bitTest_eq_marked hq hs', hword]
  · intro s₁ s₂ hs₁ hs₂ hlor
    refine ⟨_, _, bitTest_eq_marked hq hs₁, bitTest_eq_marked hq hs₂, fun x y => ?_⟩
    simp only [Grid.marks_marked_iff, sharesBit, bne_iff_ne, land_wordBits_lor hlor, and_or_left,
      exists_or]
  · intro policy a same
    exact applyMask_marked same _

/-- A negative number, a fraction and no number. -/
def signedWords : Grid where
  cellType := .int16
  width := 3
  height := 1
  noData := -7
  cells := #[-1, 2.5, 0 / 0]
  width_pos := by decide
  height_pos := by decide
  size_cells := rfl

/-- Tested against 6, which has the bits of 2 and of 4 and the word of 65542. -/
theorem bitTest_words_signed :
    (signedWords.cellType = .uint16 ∨ signedWords.cellType = .int16) ∧ Float.isFinite 6 ∧
    ∃ r, bitTest signedWords 6 = .raster r ∧
      (r.cell 0 0 = .ok 1 ∧ r.cell 1 0 = .ok 1 ∧ r.cell 2 0 = .ok 0) ∧
      bitTest { signedWords with cellType := .uint16 } 6 = .raster r ∧
      bitTest signedWords 65542 = .raster r ∧
      (∃ r₁ r₂, bitTest signedWords 2 = .raster r₁ ∧ bitTest signedWords 4 = .raster r₂ ∧
        ∀ x y, r.Marks x y ↔ r₁.Marks x y ∨ r₂.Marks x y) ∧
      ∃ b, Value.binary .ieee "#" (.raster signedWords) (.raster r) = .raster b ∧
        ∀ x y, r.Marks x y → b.cell x y = .ok signedWords.noDataSample := by
  have hwhole : ∀ (s : Scalar) (n : ℤ), wholePart s.toModel.unpack = n →
      towardZero (Scalar.value s) = n := fun s n h => by
    rw [Scalar.value, ← wholePart_eq_towardZero, h]
  have h6 := hwhole 6 6 (by decide +kernel)
  have hlarge := hwhole 65542 65542 (by decide +kernel)
  have h2 := hwhole 2 2 (by decide +kernel)
  have h4 := hwhole 4 4 (by decide +kernel)
  have hnegative : Sample.value (-1) = (-1 : ℤ) := by
    have hunpack : (-1 : Sample).toModel.unpack = .finite .negative (2 ^ 23) (-23) (by decide) := rfl
    rw [Sample.value, hunpack, exactValue]
    norm_num [Sign.apply]
  have hfraction : Sample.value 2.5 = 5 / 2 := by
    have hunpack : (2.5 : Sample).toModel.unpack =
      .finite .positive (5 * 2 ^ 21) (-22) (by decide) := rfl
    rw [Sample.value, hunpack, exactValue]
    norm_num [Sign.apply]
  obtain ⟨r, htest, -, hcells, htype, hcongr, hlor, hmask⟩ :=
    bitTest_words (q := signedWords) (.inr rfl) (s := 6) (by decide +kernel)
  obtain ⟨b, hb, -, -, -, -, hmasked⟩ := hmask .ieee signedWords ⟨rfl, rfl⟩
  refine ⟨.inr rfl, by decide +kernel, r, htest, ⟨?_, ?_, ?_⟩, htype .uint16 (.inl rfl), ?_, ?_, b, hb,
    fun x y => (hmasked x y).1⟩
  · rw [hcells 0 0 (-1) rfl (.inr ⟨by decide +kernel, by rw [hnegative]; norm_num⟩), wordBits,
      wordBits, h6, hnegative, towardZero_intCast]
    rfl
  · rw [hcells 1 0 2.5 rfl (.inr ⟨by decide +kernel, by rw [hfraction]; norm_num⟩), wordBits,
      wordBits, h6, Sample.value, ← wholePart_eq_towardZero]
    rfl
  · rw [hcells 2 0 (0 / 0) rfl (.inl (by decide +kernel)), wordBits, wordBits, h6, Sample.value,
      ← wholePart_eq_towardZero]
    rfl
  · apply hcongr 65542 (by decide +kernel)
    rw [h6, hlarge]
    decide
  · apply hlor 2 4 (by decide +kernel) (by decide +kernel)
    rw [h6, h2, h4]
    decide

/-- Beyond the limit no cell is ever marked, whatever its word is. So the mark is the one that the words of
the cell and the scalar ask for exactly if they share no bit. From `2 ^ 39` on, where every word is zero, this
is always so. -/
theorem bitTest_beyond_limit {q : Grid} (hq : q.cellType = .uint16 ∨ q.cellType = .int16) {s : Scalar}
    (hs : s.isFinite) :
    ∃ r, bitTest q s = .raster r ∧
      ∀ x y c, q.cell x y = .ok c → c.isFinite → 2 ^ 30 < |Sample.value c| →
        r.cell x y = .ok 0 ∧
        (r.cell x y =
            .ok (if wordBits (Sample.value c) &&& wordBits (Scalar.value s) ≠ 0 then 1 else 0) ↔
          wordBits (Sample.value c) &&& wordBits (Scalar.value s) = 0) ∧
        (2 ^ 39 ≤ |Sample.value c| → wordBits (Sample.value c) &&& wordBits (Scalar.value s) = 0) := by
  refine ⟨_, bitTest_eq_marked hq hs, fun x y c hcell hfinite hlimit => ?_⟩
  have hzero : (q.marked (wordBits (Scalar.value s))).cell x y = .ok 0 := by
    rw [Grid.cell_marked, hcell]
    show Except.ok (Sample.ofBool _) = _
    rw [sharesBit_of_limit_lt hfinite hlimit]
    rfl
  refine ⟨hzero, ?_, fun hlarge => by rw [wordBits_of_le hlarge, Nat.zero_and]⟩
  rw [hzero, Except.ok.injEq]
  by_cases hshares : wordBits (Sample.value c) &&& wordBits (Scalar.value s) = 0
  · simp [hshares]
  · simp [hshares, Sample.zero_ne_one]

/-- One cell that holds `2 ^ 30 + 2 ^ 7`, and so a word with one bit. -/
def largeWord : Grid where
  cellType := .uint16
  width := 1
  height := 1
  noData := 0
  cells := #[1073741952]
  width_pos := Nat.one_pos
  height_pos := Nat.one_pos
  size_cells := rfl

theorem value_largeWord : Sample.value 1073741952 = (1073741952 : ℤ) := by
  have hunpack : (1073741952 : Sample).toModel.unpack =
    .finite .positive 8388609 7 (by decide) := rfl
  rw [Sample.value, hunpack, exactValue]
  norm_num [Sign.apply]

/-- A cell above the limit: its low bits say something else than the limit does. -/
theorem bitTest_beyond_limit_largeWord :
    (largeWord.cellType = .uint16 ∨ largeWord.cellType = .int16) ∧ Float.isFinite 128 ∧
      largeWord.cell 0 0 = .ok 1073741952 ∧ Float32.isFinite 1073741952 ∧
      (2 : ℚ) ^ 30 < |Sample.value 1073741952| ∧
      ∃ r, bitTest largeWord 128 = .raster r ∧ r.cell 0 0 = .ok 0 := by
  have hlimit : (2 : ℚ) ^ 30 < |Sample.value 1073741952| := by
    rw [value_largeWord]
    norm_num
  obtain ⟨r, htest, hcells⟩ :=
    bitTest_beyond_limit (q := largeWord) (.inl rfl) (s := 128) (by decide +kernel)
  exact ⟨.inl rfl, by decide +kernel, rfl, by decide +kernel, hlimit, r, htest,
    (hcells 0 0 1073741952 rfl (by decide +kernel) hlimit).1⟩

/-- The words of the cell and of the scalar are the same, and not zero. -/
theorem not_bitTest_beyond_limit :
    ¬ ∀ (q : Grid) (s : Scalar), q.cellType = .uint16 ∨ q.cellType = .int16 → s.isFinite →
      ∃ r, bitTest q s = .raster r ∧
        ∀ x y c, q.cell x y = .ok c → c.isFinite → 2 ^ 30 < |Sample.value c| →
          r.cell x y =
            .ok (if wordBits (Sample.value c) &&& wordBits (Scalar.value s) ≠ 0 then 1 else 0) := by
  intro hall
  obtain ⟨r, htest, hcells⟩ := hall largeWord 128 (.inl rfl) (by decide +kernel)
  have hscalar : wordBits (Scalar.value 128) = 128 := by
    rw [wordBits, Scalar.value, ← wholePart_eq_towardZero]
    rfl
  have hcell : wordBits (Sample.value 1073741952) = 128 := by
    rw [wordBits, value_largeWord, towardZero_intCast]
    rfl
  have hone := hcells 0 0 1073741952 rfl (by decide +kernel) (by rw [value_largeWord]; norm_num)
  rw [hscalar, hcell] at hone
  obtain rfl : (largeWord.marked 128) = r := by
    have hmarked := bitTest_eq_marked (q := largeWord) (.inl rfl) (s := 128) (by decide +kernel)
    rw [hscalar, htest] at hmarked
    exact (Value.raster.inj hmarked).symm
  have hzero : (largeWord.marked 128).cell 0 0 = .ok 0 := by
    rw [Grid.cell_marked]
    rfl
  rw [hzero, Except.ok.injEq] at hone
  exact Sample.zero_ne_one hone

end RasterAlgebra
