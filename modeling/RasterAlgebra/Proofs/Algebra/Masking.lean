import RasterAlgebra.Proofs.Algebra.BitTest
import RasterAlgebra.Proofs.Number.Equality

/-!
# The algebra of masks

A mask puts the no-data value into the cells that it marks and changes nothing else (`Grid.MaskedBy`). Which
cells it marks is all that counts of it: there is only one grid that is another one under given marks
(`MaskedBy.unique`), and marks upon marks are the marks of either (`MaskedBy.trans`).

So masks can be put on twice, in any order, or as one (`masks_join`). The no-data value can be anything; it
is rounded when it is put into a cell, and the grid under the mask has the same one.
-/

namespace RasterAlgebra

/-! ## Grids under marks -/

/-- The grid `r` holds the no-data value in the cells that are marked, and is otherwise the grid `a`. -/
structure Grid.MaskedBy (a : Grid) (marked : ℤ → ℤ → Prop) (r : Grid) : Prop where
  cellType : r.cellType = a.cellType
  extents : r.SameExtents a
  noData : r.noData = a.noData
  inside : ∀ x y, marked x y → r.cell x y = .ok (.ofScalar a.noData)
  outside : ∀ x y, ¬ marked x y → r.cell x y = a.cell x y

namespace Grid.MaskedBy

variable {a r r' : Grid} {marked marked' : ℤ → ℤ → Prop}

theorem congr (h : a.MaskedBy marked r) (hmarked : ∀ x y, marked' x y ↔ marked x y) :
    a.MaskedBy marked' r := by
  obtain rfl : marked' = marked := funext fun x => funext fun y => propext (hmarked x y)
  exact h

theorem unique (h : a.MaskedBy marked r) (h' : a.MaskedBy marked r') : r = r' := by
  refine eq_of_cell (h.cellType.trans h'.cellType.symm)
    ⟨h.extents.1.trans h'.extents.1.symm, h.extents.2.trans h'.extents.2.symm⟩
    (h.noData.trans h'.noData.symm) fun x y => ?_
  by_cases hxy : marked x y
  · rw [h.inside x y hxy, h'.inside x y hxy]
  · rw [h.outside x y hxy, h'.outside x y hxy]

/-- The second marks find the no-data value of the first ones. -/
theorem trans (h : a.MaskedBy marked r) (h' : r.MaskedBy marked' r') :
    a.MaskedBy (fun x y => marked x y ∨ marked' x y) r' where
  cellType := h'.cellType.trans h.cellType
  extents := ⟨h'.extents.1.trans h.extents.1, h'.extents.2.trans h.extents.2⟩
  noData := h'.noData.trans h.noData
  inside := by
    intro x y hxy
    by_cases hlater : marked' x y
    · rw [h'.inside x y hlater, h.noData]
    · rw [h'.outside x y hlater, h.inside x y (hxy.resolve_right hlater)]
  outside := by
    intro x y hxy
    obtain ⟨hfirst, hlater⟩ := not_or.mp hxy
    rw [h'.outside x y hlater, h.outside x y hfirst]

theorem sameExtents (h : a.MaskedBy marked r) {mask : Grid} (same : a.SameExtents mask) :
    r.SameExtents mask :=
  ⟨h.extents.1.trans same.1, h.extents.2.trans same.2⟩

end Grid.MaskedBy

/-! ## Masks -/

theorem maskCell_one (noData c : Sample) : maskCell noData c 1 = noData :=
  if_pos ((Sample.beq_one_iff 1).mpr rfl)

theorem maskCell_of_ne_one (noData c : Sample) {m : Sample} (hm : m ≠ 1) : maskCell noData c m = c :=
  if_neg (mt (Sample.beq_one_iff m).mp hm)

/-- A Boolean grid of the same extents masks any grid. -/
theorem exists_maskedBy {a mask : Grid} (hmask : mask.cellType = .boolean) (same : a.SameExtents mask)
    (policy : DivisionPolicy) :
    ∃ r, Value.binary policy "#" (.raster a) (.raster mask) = .raster r ∧ a.MaskedBy mask.Marks r := by
  refine ⟨a.zipWith mask same a.cellType (maskCell a.noDataSample), ?_, rfl, ⟨rfl, rfl⟩, rfl, ?_, ?_⟩
  · show applyMask a mask = _
    rw [applyMask, dif_pos same, if_pos hmask]
  · intro x y hmarks
    rw [Grid.cell_zipWith, hmarks]
    rcases same.cells x y with ⟨c, m, hcell, -⟩ | ⟨e, -, herror⟩
    · rw [hcell]
      exact congrArg Except.ok (maskCell_one _ _)
    · cases hmarks.symm.trans herror
  · intro x y hmarks
    rw [Grid.cell_zipWith]
    rcases same.cells x y with ⟨c, m, hcell, hcell'⟩ | ⟨e, hcell, hcell'⟩
    · have hm : m ≠ 1 := by
        rintro rfl
        exact hmarks hcell'
      rw [hcell, hcell']
      exact congrArg Except.ok (maskCell_of_ne_one _ _ hm)
    · rw [hcell]
      rfl

/-- Masks that are Boolean grids with any samples, on a grid with any no-data value. A mask puts the no-data
value where its cells are 1 and leaves the rest as it is. The same mask again changes nothing, and two masks
can be put on in either order, or as one mask that marks what one of them marks. -/
theorem masks_join {a m₁ m₂ : Grid} (h₁ : m₁.cellType = .boolean) (h₂ : m₂.cellType = .boolean)
    (same₁ : a.SameExtents m₁) (same₂ : a.SameExtents m₂) (policy : DivisionPolicy) :
    ∃ r₁ r₂ r,
      Value.binary policy "#" (.raster a) (.raster m₁) = .raster r₁ ∧ a.MaskedBy m₁.Marks r₁ ∧
      Value.binary policy "#" (.raster a) (.raster m₂) = .raster r₂ ∧ a.MaskedBy m₂.Marks r₂ ∧
      Value.binary policy "#" (.raster r₁) (.raster m₁) = .raster r₁ ∧
      Value.binary policy "#" (.raster r₁) (.raster m₂) = .raster r ∧
      Value.binary policy "#" (.raster r₂) (.raster m₁) = .raster r ∧
      ∀ m, m.cellType = .boolean → a.SameExtents m →
        (∀ x y, m.Marks x y ↔ m₁.Marks x y ∨ m₂.Marks x y) →
        Value.binary policy "#" (.raster a) (.raster m) = .raster r := by
  obtain ⟨r₁, hr₁, hmasked₁⟩ := exists_maskedBy h₁ same₁ policy
  obtain ⟨r₂, hr₂, hmasked₂⟩ := exists_maskedBy h₂ same₂ policy
  obtain ⟨r₁₁, hr₁₁, hmasked₁₁⟩ := exists_maskedBy h₁ (hmasked₁.sameExtents same₁) policy
  obtain ⟨r₁₂, hr₁₂, hmasked₁₂⟩ := exists_maskedBy h₂ (hmasked₁.sameExtents same₂) policy
  obtain ⟨r₂₁, hr₂₁, hmasked₂₁⟩ := exists_maskedBy h₁ (hmasked₂.sameExtents same₁) policy
  -- however masks are put on, what comes of them is `a` under the marks of all
  have hboth := hmasked₁.trans hmasked₁₂
  have htwice : r₁₁ = r₁ :=
    ((hmasked₁.trans hmasked₁₁).congr fun _ _ => (or_self_iff).symm).unique hmasked₁
  have hswapped : r₂₁ = r₁₂ := ((hmasked₂.trans hmasked₂₁).congr fun _ _ => or_comm).unique hboth
  refine ⟨r₁, r₂, r₁₂, hr₁, hmasked₁, hr₂, hmasked₂, htwice ▸ hr₁₁, hr₁₂, hswapped ▸ hr₂₁, ?_⟩
  intro m hm same hmarks
  obtain ⟨r, hr, hmasked⟩ := exists_maskedBy hm same policy
  rw [hr, hmasked.unique (hboth.congr hmarks)]

theorem marks_threeCells (cellType : CellType) (noData : Scalar) (c₀ c₁ c₂ : Sample) (x y : ℤ) :
    (threeCells cellType noData c₀ c₁ c₂).Marks x y ↔
      y = 0 ∧ (x = 0 ∧ c₀ = 1 ∨ x = 1 ∧ c₁ = 1 ∨ x = 2 ∧ c₂ = 1) := by
  by_cases h : 0 ≤ x ∧ x < 3 ∧ 0 ≤ y ∧ y < 1
  · obtain ⟨hx, hx', hy, hy'⟩ := h
    obtain rfl : y = 0 := by omega
    obtain rfl | rfl | rfl : x = 0 ∨ x = 1 ∨ x = 2 := by omega
    all_goals simp [Grid.Marks, Grid.cell, Grid.get, threeCells]
  · refine iff_of_false ?_ (by omega)
    rw [Grid.Marks, (threeCells cellType noData c₀ c₁ c₂).cell_eq_error h]
    exact fun h => by cases h

/-- The no-data value is no number, and so are some cells; cells of the masks are fractions and more. -/
theorem masks_join_noNumber :
    let a := threeCells .int16 (0 / 0) 5 7 (0 / 0)
    let m₁ := threeCells .boolean 0 1 0.5 0
    let m₂ := threeCells .boolean 7 0 (0 / 0) 1
    let m := threeCells .boolean 0 1 (-1) 1
    (m₁.cellType = .boolean ∧ m₂.cellType = .boolean ∧ a.SameExtents m₁ ∧ a.SameExtents m₂) ∧
    (m.cellType = .boolean ∧ a.SameExtents m ∧
      ∀ x y, m.Marks x y ↔ m₁.Marks x y ∨ m₂.Marks x y) ∧
    ∃ r₁ r, Value.binary .noData "#" (.raster a) (.raster m₁) = .raster r₁ ∧
      r₁.cell 0 0 = .ok (.ofScalar (0 / 0)) ∧ r₁.cell 1 0 = .ok 7 ∧
      Value.binary .noData "#" (.raster r₁) (.raster m₁) = .raster r₁ ∧
      Value.binary .noData "#" (.raster r₁) (.raster m₂) = .raster r ∧
      Value.binary .noData "#" (.raster a) (.raster m) = .raster r := by
  intro a m₁ m₂ m
  have hhalf : (0.5 : Sample) ≠ 1 := by decide +kernel
  have hzero : (0 : Sample) ≠ 1 := by decide +kernel
  have hnan : (0 / 0 : Sample) ≠ 1 := by decide +kernel
  have hminus : (-1 : Sample) ≠ 1 := by decide +kernel
  have hmarks : ∀ x y, m.Marks x y ↔ m₁.Marks x y ∨ m₂.Marks x y := by
    intro x y
    rw [marks_threeCells, marks_threeCells, marks_threeCells]
    simp only [hhalf, hzero, hnan, hminus, and_false, and_true, false_or, or_false]
    exact and_or_left
  have h₁ : m₁.cellType = .boolean := rfl
  have h₂ : m₂.cellType = .boolean := rfl
  have same₁ : a.SameExtents m₁ := ⟨rfl, rfl⟩
  have same₂ : a.SameExtents m₂ := ⟨rfl, rfl⟩
  obtain ⟨r₁, r₂, r, hr₁, hmasked, -, -, htwice, hr, -, hone⟩ := masks_join h₁ h₂ same₁ same₂ .noData
  refine ⟨⟨h₁, h₂, same₁, same₂⟩, ⟨rfl, ⟨rfl, rfl⟩, hmarks⟩, r₁, r, hr₁,
    hmasked.inside 0 0 rfl, ?_, htwice, hr, hone m rfl ⟨rfl, rfl⟩ hmarks⟩
  rw [hmasked.outside 1 0 (by simp [m₁, marks_threeCells, hhalf])]
  rfl

end RasterAlgebra
