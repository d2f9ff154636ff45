import RasterAlgebra.Proofs.ArrayFile.Pieces
import RasterAlgebra.Proofs.Grid.Gather
import RasterAlgebra.Proofs.Grid.Making
import RasterAlgebra.Proofs.Number.Widening

/-!
# Rows of grids

A grid is its rows: in the row and the column of a cell stands its sample, the rows in order are all samples, and
each grid is made of its rows again.

* `position_bijective`: every sample has one place.
* `getElem?_row`, `flatten_rows`: the rows hold what the cells hold.
* `exists_ofRows`: whatever rows of one length are given, they are the rows of a grid.

`rows_row_major` puts these together.
-/

namespace RasterAlgebra

variable {α β : Type} {width : ℕ} {rows : List (List α)}

theorem Rectangular.map (h : Rectangular width rows) (f : α → β) : Rectangular width (rows.map (·.map f)) where
  ne_nil := by
    rw [ne_eq, List.map_eq_nil_iff]
    exact h.ne_nil
  width_pos := h.width_pos
  length_row := by
    intro row hrow
    obtain ⟨row', hrow', rfl⟩ := List.mem_map.mp hrow
    rw [List.length_map, h.length_row row' hrow']

/-! ## Blocks of rows -/

namespace Block

theorem mapList_items (f : α → β) (xs : List α) : mapList f (xs.map item) = (xs.map f).map item := by
  induction xs with
  | nil => rfl
  | cons x xs ih =>
    rw [List.map_cons, mapList, ih]
    rfl

theorem map_ofRows (f : α → β) (rows : List (List α)) :
    (ofRows rows).map f = ofRows (rows.map (·.map f)) := by
  rw [ofRows, map, ofRows, List.map_map]
  congr 1
  induction rows with
  | nil => rfl
  | cons row rows ih =>
    rw [List.map_cons, mapList, ih, ofList, map, mapList_items]
    rfl

end Block

namespace Grid

/-! ## Positions -/

/-- The position of a cell among the samples. -/
def position (g : Grid) (p : Fin g.width × Fin g.height) : Fin g.cells.size :=
  ⟨p.2 * g.width + p.1, g.index_lt p.1.isLt p.2.isLt⟩

theorem cell_eq_position (g : Grid) (p : Fin g.width × Fin g.height) :
    g.cell (p.1 : ℕ) (p.2 : ℕ) = .ok g.cells[g.position p] :=
  g.cell_of_lt p.1.isLt p.2.isLt

/-- No two cells share a sample, and no sample is left over. -/
theorem position_bijective (g : Grid) : Function.Bijective g.position := by
  have hsize : g.height * g.width = g.cells.size := by rw [g.size_cells, Nat.mul_comm]
  have hposition : g.position = (Equiv.prodComm _ _).trans (finProdFinEquiv.trans (finCongr hsize)) := by
    funext p
    apply Fin.ext
    show p.2 * g.width + p.1 = p.1 + g.width * p.2
    ring
  rw [hposition]
  exact Equiv.bijective _

/-! ## Rows of cells -/

theorem length_rows (g : Grid) : g.rows.length = g.height := by
  rw [rows, List.length_map, List.length_range]

theorem getElem?_rows (g : Grid) {y : ℕ} (hy : y < g.height) : g.rows[y]? = some (g.row y) := by
  rw [rows, List.getElem?_map, List.getElem?_range hy]
  rfl

/-- In column `x` of row `y` stands the sample of the cell. -/
theorem getElem?_row (g : Grid) {x y : ℕ} (hx : x < g.width) (hy : y < g.height) :
    (g.row y)[x]? = some (g.get x y hx hy) := by
  rw [row, List.getElem?_take_of_lt hx, List.getElem?_drop, Array.getElem?_toList]
  exact Array.getElem?_eq_getElem (g.index_lt hx hy)

theorem length_row (g : Grid) {y : ℕ} (hy : y < g.height) : (g.row y).length = g.width := by
  have hpos := g.width_pos
  -- the last sample of the row is one of the grid
  have hlast := g.index_lt (Nat.sub_lt hpos Nat.one_pos) hy
  rw [row, List.length_take, List.length_drop, Array.length_toList]
  omega

theorem rectangular_rows (g : Grid) : Rectangular g.width g.rows where
  ne_nil := List.ne_nil_of_length_pos (g.length_rows ▸ g.height_pos)
  width_pos := g.width_pos
  length_row := by
    intro row hrow
    obtain ⟨y, hy, rfl⟩ := List.mem_map.mp hrow
    exact g.length_row (List.mem_range.mp hy)

/-- The rows are the pieces of the samples that are as long as the grid is wide. -/
theorem rows_eq_pieces (g : Grid) : g.rows = ArrayFile.pieces g.width g.height g.cells.toList :=
  ArrayFile.map_range_eq_pieces g.width g.height g.cells.toList

/-- The rows, one behind the other, are the samples. -/
theorem flatten_rows (g : Grid) : g.rows.flatten = g.cells.toList := by
  rw [rows_eq_pieces]
  exact ArrayFile.flatten_pieces g.length_toList_cells

/-- A grid is known from its rows and what its cells have in common. -/
theorem eq_of_rows {g k : Grid} (htype : g.cellType = k.cellType) (hwidth : g.width = k.width)
    (hnoData : g.noData = k.noData) (hrows : g.rows = k.rows) : g = k := by
  have hheight : g.height = k.height := by rw [← length_rows, ← length_rows, hrows]
  refine eq_of_cells htype ⟨hwidth, hheight⟩ hnoData ?_
  rw [← Array.toList_inj, ← flatten_rows, ← flatten_rows, hrows]

/-! ## Grids of rows -/

/-- Rows of one length are the rows of a grid. -/
theorem exists_ofRows {rows : List (List Sample)} (h : Rectangular width rows) (cellType : CellType)
    (noData : Scalar) :
    ∃ k, ofRows (Block.ofRows rows) cellType noData = .ok k ∧
      k.cellType = cellType ∧ k.noData = noData ∧ k.width = width ∧ k.rows = rows := by
  refine ⟨_, ofRows_of_rectangular h cellType noData, rfl, rfl, rfl, ?_⟩
  rw [rows_eq_pieces]
  have hpieces := ArrayFile.pieces_flatten width rows h.length_row []
  rwa [List.append_nil] at hpieces

/-- A grid is made of its rows, also after the samples have been scalars. -/
theorem ofRows_rows (g : Grid) :
    ofRows ((Block.ofRows (g.rows.map (·.map Sample.toScalar))).map Sample.ofScalar) g.cellType g.noData =
      .ok g := by
  have hrows : (g.rows.map (·.map Sample.toScalar)).map (·.map Sample.ofScalar) = g.rows := by
    have hsample : Sample.ofScalar ∘ Sample.toScalar = id := funext Sample.ofScalar_toScalar
    rw [List.map_map]
    refine (List.map_congr_left fun row _ => ?_).trans (List.map_id _)
    rw [Function.comp_apply, List.map_map, hsample, List.map_id, id_eq]
  rw [Block.map_ofRows, hrows]
  obtain ⟨k, hk, htype, hnoData, hwidth, hrows⟩ := exists_ofRows g.rectangular_rows g.cellType g.noData
  rw [hk, eq_of_rows htype hwidth hnoData hrows]

/-- Cells and rows of any grid. A cell in range is the sample in its row and column, and outside there are none,
whatever the signs of the numbers are. The rows are as many as the grid is high, and as long as it is wide; each
cell has a position of its own, and there are no others. From its rows, the grid is made again; and rows of
scalars, all of one positive length, are the rows of a grid after each scalar has been rounded. -/
theorem rows_row_major (g : Grid) :
    (∀ x y : ℤ,
      (0 ≤ x ∧ x < g.width ∧ 0 ≤ y ∧ y < g.height →
        ∃ c, g.cell x y = .ok c ∧ g.rows[y.toNat]?.bind (·[x.toNat]?) = some c) ∧
      (¬ (0 ≤ x ∧ x < g.width ∧ 0 ≤ y ∧ y < g.height) →
        g.cell x y = .error (.outside x y g.width g.height))) ∧
    (g.rows.length = g.height ∧ ∀ row ∈ g.rows, row.length = g.width) ∧
    (Function.Bijective g.position ∧
      ∀ p : Fin g.width × Fin g.height, g.cell (p.1 : ℕ) (p.2 : ℕ) = .ok g.cells[g.position p]) ∧
    ofRows ((Block.ofRows (g.rows.map (·.map Sample.toScalar))).map Sample.ofScalar) g.cellType g.noData =
      .ok g ∧
    ∀ (width : ℕ) (r : List (List Scalar)), Rectangular width r → ∀ cellType noData,
      ∃ k, ofRows ((Block.ofRows r).map Sample.ofScalar) cellType noData = .ok k ∧
        k.cellType = cellType ∧ k.noData = noData ∧ k.rows = r.map (·.map Sample.ofScalar) := by
  refine ⟨fun x y => ⟨fun h => ?_, g.cell_eq_error⟩, ⟨g.length_rows, g.rectangular_rows.length_row⟩,
    ⟨g.position_bijective, g.cell_eq_position⟩, g.ofRows_rows, fun width r hr cellType noData => ?_⟩
  · obtain ⟨hx, hy, hcell⟩ := g.cell_eq_ok h
    refine ⟨_, hcell, ?_⟩
    rw [g.getElem?_rows hy, Option.bind_some, g.getElem?_row hx hy]
  · obtain ⟨k, hk, htype, hnoData, -, hrows⟩ := exists_ofRows (hr.map Sample.ofScalar) cellType noData
    rw [Block.map_ofRows]
    exact ⟨k, hk, htype, hnoData, hrows⟩

/-- Two rows of three cells: the last column of the first row, the column behind it, the row in front of it, and
rows with a scalar that is no sample. -/
theorem rows_row_major_six_cells :
    let g : Grid := ⟨.uint16, 3, 2, 0, #[1, 2, 3, 4, 5, 6], Nat.succ_pos 2, Nat.succ_pos 1, rfl⟩
    (∃ c, g.cell 2 0 = .ok c ∧ g.rows[0]?.bind (·[2]?) = some c) ∧
    g.cell 3 0 = .error (.outside 3 0 3 2) ∧
    g.cell 2 (-1) = .error (.outside 2 (-1) 3 2) ∧
    ∃ k, ofRows ((Block.ofRows [[1, 2, 3], [4, 5, 0.1]]).map Sample.ofScalar) .uint16 0 = .ok k ∧
      k.rows = [[.ofScalar 1, .ofScalar 2, .ofScalar 3], [.ofScalar 4, .ofScalar 5, .ofScalar 0.1]] := by
  intro g
  obtain ⟨hcells, -, -, -, hrows⟩ := rows_row_major g
  have hrectangular : Rectangular 3 [[1, 2, 3], [4, 5, (0.1 : Scalar)]] :=
    ⟨List.cons_ne_nil _ _, Nat.succ_pos 2, by simp⟩
  obtain ⟨k, hk, -, -, hsamples⟩ := hrows 3 _ hrectangular .uint16 0
  refine ⟨(hcells 2 0).1 ?_, (hcells 3 0).2 ?_, (hcells 2 (-1)).2 ?_, k, hk, hsamples⟩
  · decide
  · decide
  · decide

end Grid

end RasterAlgebra
