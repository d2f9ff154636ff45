import Mathlib.Data.Int.Notation
import Mathlib.Tactic.Common
import RasterAlgebra.Grid

/-!
# Cells of computed grids

What stands in the cells of a grid that is computed from others (`cell_map`, `cell_zipWith`), and grids
whose cells are picked from another one: `Gathers f g g'` says that `g'` has in every cell what `g` has in
the cell to which `f` sends it. Crops, flips, permutations and replications are of this form, and every
grid has such a grid for every `f` (`gathers_gather`).
-/

namespace RasterAlgebra

namespace Grid

/-! ## Cells -/

theorem cell_eq_ok (g : Grid) {x y : ℤ} (h : 0 ≤ x ∧ x < g.width ∧ 0 ≤ y ∧ y < g.height) :
    ∃ hx hy, g.cell x y = .ok (g.get x.toNat y.toNat hx hy) :=
  ⟨by omega, by omega, dif_pos h⟩

theorem cell_eq_error (g : Grid) {x y : ℤ} (h : ¬ (0 ≤ x ∧ x < g.width ∧ 0 ≤ y ∧ y < g.height)) :
    g.cell x y = .error (.outside x y g.width g.height) :=
  dif_neg h

theorem cell_of_lt (g : Grid) {x y : ℕ} (hx : x < g.width) (hy : y < g.height) :
    g.cell x y = .ok (g.get x y hx hy) := by
  obtain ⟨_, _, h⟩ := g.cell_eq_ok (x := x) (y := y) ⟨by omega, by omega, by omega, by omega⟩
  exact h

/-- Grids of the same extents have the same cells. -/
theorem SameExtents.cells {g k : Grid} (same : g.SameExtents k) (x y : ℤ) :
    (∃ c d, g.cell x y = .ok c ∧ k.cell x y = .ok d) ∨
      ∃ e, g.cell x y = .error e ∧ k.cell x y = .error e := by
  by_cases h : 0 ≤ x ∧ x < g.width ∧ 0 ≤ y ∧ y < g.height
  · obtain ⟨_, _, hcell⟩ := g.cell_eq_ok h
    obtain ⟨_, _, hcell'⟩ := k.cell_eq_ok (x := x) (y := y) (by rwa [← same.1, ← same.2])
    exact .inl ⟨_, _, hcell, hcell'⟩
  · refine .inr ⟨_, g.cell_eq_error h, ?_⟩
    rw [k.cell_eq_error (by rwa [← same.1, ← same.2]), same.1, same.2]

/-- Every sample stands in a cell. -/
theorem cell_of_index (g : Grid) {i : ℕ} (hi : i < g.cells.size) :
    g.cell (i % g.width : ℕ) (i / g.width : ℕ) = .ok g.cells[i] := by
  have hx : i % g.width < g.width := Nat.mod_lt i g.width_pos
  have hy : i / g.width < g.height := Nat.div_lt_of_lt_mul (g.size_cells ▸ hi)
  rw [g.cell_of_lt hx hy]
  simp only [get, Nat.div_add_mod']

/-- Grids with the same samples in the same extents differ in what all cells have in common. -/
theorem eq_of_cells {g k : Grid} (htype : g.cellType = k.cellType) (hextents : g.SameExtents k)
    (hnoData : g.noData = k.noData) (hcells : g.cells = k.cells) : g = k := by
  obtain ⟨type, width, height, noData, cells⟩ := g
  obtain ⟨type', width', height', noData', cells'⟩ := k
  obtain ⟨rfl, rfl⟩ : width = width' ∧ height = height' := hextents
  obtain rfl : type = type' := htype
  obtain rfl : noData = noData' := hnoData
  obtain rfl : cells = cells' := hcells
  rfl

/-- A grid is known from its cells and what they have in common. -/
theorem eq_of_cell {g k : Grid} (htype : g.cellType = k.cellType) (hextents : g.SameExtents k)
    (hnoData : g.noData = k.noData) (hcells : ∀ x y, g.cell x y = k.cell x y) : g = k := by
  refine eq_of_cells htype hextents hnoData ?_
  have hsize : g.cells.size = k.cells.size := by
    rw [g.size_cells, k.size_cells, hextents.1, hextents.2]
  refine Array.ext hsize fun i hi hi' => ?_
  have hcell := hcells (i % g.width : ℕ) (i / g.width : ℕ)
  rw [cell_of_index g hi, hextents.1, cell_of_index k hi'] at hcell
  exact Except.ok.inj hcell

theorem cell_map (g : Grid) (cellType : CellType) (φ : Sample → Sample) (x y : ℤ) :
    (g.map cellType φ).cell x y = (g.cell x y).map φ := by
  by_cases h : 0 ≤ x ∧ x < g.width ∧ 0 ≤ y ∧ y < g.height
  · obtain ⟨hx, hy, hcell⟩ := g.cell_eq_ok h
    obtain ⟨_, _, hmap⟩ := (g.map cellType φ).cell_eq_ok h
    rw [hcell, hmap]
    simp only [get, map, Array.getElem_map, Except.map]
  · rw [g.cell_eq_error h, (g.map cellType φ).cell_eq_error h]
    rfl

theorem cell_zipWith (g k : Grid) (same : g.SameExtents k) (cellType : CellType)
    (φ : Sample → Sample → Sample) (x y : ℤ) :
    (g.zipWith k same cellType φ).cell x y =
      (g.cell x y).bind fun c => (k.cell x y).map (φ c) := by
  by_cases h : 0 ≤ x ∧ x < g.width ∧ 0 ≤ y ∧ y < g.height
  · have h' : 0 ≤ x ∧ x < k.width ∧ 0 ≤ y ∧ y < k.height := by
      rw [← same.1, ← same.2]
      exact h
    obtain ⟨hx, hy, hcell⟩ := g.cell_eq_ok h
    obtain ⟨_, _, hcell'⟩ := k.cell_eq_ok h'
    obtain ⟨_, _, hzip⟩ := (g.zipWith k same cellType φ).cell_eq_ok h
    rw [hcell, hcell', hzip]
    simp only [get, zipWith, Array.getElem_zipWith, same.1, Except.bind, Except.map]
  · rw [g.cell_eq_error h, (g.zipWith k same cellType φ).cell_eq_error h]
    rfl

/-! ## Picking cells -/

variable {w h w' h' : ℕ}

/-- The grid `g'` has in every cell what `g` has in the cell to which `f` sends it, and otherwise differs
from `g` in its extents only. -/
structure Gathers (f : Fin w' × Fin h' → Fin w × Fin h) (g g' : Grid) : Prop where
  width : g.width = w
  height : g.height = h
  width' : g'.width = w'
  height' : g'.height = h'
  cellType : g'.cellType = g.cellType
  noData : g'.noData = g.noData
  cells : ∀ p, g'.cell (p.1 : ℕ) (p.2 : ℕ) = g.cell ((f p).1 : ℕ) ((f p).2 : ℕ)

/-- The grid that has in every cell what `g` has in the cell to which `f` sends it. -/
def gather (f : Fin w' × Fin h' → Fin w × Fin h) (hw' : 0 < w') (hh' : 0 < h') (g : Grid) : Grid :=
  { g with
    width := w'
    height := h'
    cells := Array.ofFn fun i : Fin (w' * h') =>
      let p := f (⟨i % w', Nat.mod_lt _ hw'⟩, ⟨i / w', Nat.div_lt_of_lt_mul i.isLt⟩)
      (g.cell (p.1 : ℕ) (p.2 : ℕ)).toOption.getD 0
    width_pos := hw'
    height_pos := hh'
    size_cells := Array.size_ofFn }

theorem gathers_gather (f : Fin w' × Fin h' → Fin w × Fin h) (hw' : 0 < w') (hh' : 0 < h') {g : Grid}
    (hw : g.width = w) (hh : g.height = h) : g.Gathers f (g.gather f hw' hh') := by
  refine ⟨hw, hh, rfl, rfl, rfl, rfl, ?_⟩
  rintro ⟨x, y⟩
  subst hw hh
  -- the position of a cell gives its column and its row back
  have hmod : (y * w' + x : ℕ) % w' = x := by
    rw [Nat.mul_add_mod', Nat.mod_eq_of_lt x.isLt]
  have hdiv : (y * w' + x : ℕ) / w' = y := by
    rw [Nat.add_comm, Nat.add_mul_div_right _ _ hw', Nat.div_eq_of_lt x.isLt, Nat.zero_add]
  have hcell := g.cell_of_lt (f (x, y)).1.isLt (f (x, y)).2.isLt
  rw [hcell, cell_of_lt _ x.isLt y.isLt]
  simp only [get, gather, Array.getElem_ofFn, hmod, hdiv]
  exact congrArg (fun r => Except.ok (r.toOption.getD 0)) hcell

end Grid

/-! ## A row -/

/-- One row of three cells. -/
def threeCells (cellType : CellType) (noData : Scalar) (c₀ c₁ c₂ : Sample) : Grid where
  cellType := cellType
  width := 3
  height := 1
  noData := noData
  cells := #[c₀, c₁, c₂]
  width_pos := Nat.succ_pos 2
  height_pos := Nat.one_pos
  size_cells := rfl

end RasterAlgebra
