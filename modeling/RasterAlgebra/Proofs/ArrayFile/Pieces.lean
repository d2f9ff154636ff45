import RasterAlgebra.ArrayFile
import RasterAlgebra.Proofs.Grid.Making

/-!
# Pieces of an array

The elements of an array are taken in pieces: the bytes of one element, the elements of one row or of one column.
Pieces of a list that is long enough are the list again (`flatten_pieces`), and a list of pieces can be had back from
what they make up (`pieces_flatten`).

However short a file is, a matrix has as many samples as it has rows and columns (`length_samples`), so a grid can
always be made of its rows (`ofRows_rows`).
-/

namespace RasterAlgebra.ArrayFile

variable {α : Type} {size count : ℕ} {xs : List α}

/-! ## Pieces of lists -/

theorem length_pieces (size count : ℕ) (xs : List α) : (pieces size count xs).length = count := by
  induction count generalizing xs with
  | zero => rfl
  | succ count ih => rw [pieces, List.length_cons, ih]

/-- All pieces are full if the list is long enough for them. -/
theorem length_of_mem_pieces (hxs : xs.length = size * count) :
    ∀ piece ∈ pieces size count xs, piece.length = size := by
  induction count generalizing xs with
  | zero => simp [pieces]
  | succ count ih =>
    rw [Nat.mul_succ] at hxs
    refine List.forall_mem_cons.mpr ⟨?_, ih ?_⟩
    · rw [List.length_take]
      omega
    · rw [List.length_drop]
      omega

/-- Each piece stands where the ones in front of it end. -/
theorem map_range_eq_pieces (size count : ℕ) (xs : List α) :
    ((List.range count).map fun i => (xs.drop (i * size)).take size) = pieces size count xs := by
  induction count generalizing xs with
  | zero => rfl
  | succ count ih =>
    rw [List.range_succ_eq_map, List.map_cons, List.map_map, pieces, ← ih, Nat.zero_mul, List.drop_zero]
    refine congrArg _ (List.map_congr_left fun i _ => ?_)
    rw [Function.comp_apply, List.drop_drop, Nat.succ_mul, Nat.add_comm]

/-- The pieces one behind the other are the list. -/
theorem flatten_pieces (hxs : xs.length = size * count) : (pieces size count xs).flatten = xs := by
  induction count generalizing xs with
  | zero => exact (List.eq_nil_of_length_eq_zero hxs).symm
  | succ count ih =>
    have hrest : (xs.drop size).length = size * count := by
      rw [List.length_drop, hxs, Nat.mul_succ, Nat.add_sub_cancel]
    rw [pieces, List.flatten_cons, ih hrest, List.take_append_drop]

/-- Lists of one length are the pieces of what they make up, whatever stands behind it. -/
theorem pieces_flatten (size : ℕ) (rows : List (List α)) (h : ∀ row ∈ rows, row.length = size)
    (rest : List α) : pieces size rows.length (rows.flatten ++ rest) = rows := by
  induction rows with
  | nil => rfl
  | cons row rows ih =>
    obtain ⟨hrow, hrows⟩ := List.forall_mem_cons.mp h
    rw [List.flatten_cons, List.append_assoc, List.length_cons, pieces, List.take_left' hrow,
      List.drop_left' hrow, ih hrows]

/-! ## The count of samples -/

/-- A row has an element in every column that reaches it. -/
theorem length_filterMap_getElem? {columns : List (List α)} {y : ℕ}
    (h : ∀ column ∈ columns, y < column.length) :
    (columns.filterMap (·[y]?)).length = columns.length := by
  induction columns with
  | nil => rfl
  | cons column columns ih =>
    obtain ⟨hy, hcolumns⟩ := List.forall_mem_cons.mp h
    rw [List.filterMap_cons_some (f := (·[y]?)) (List.getElem?_eq_getElem hy), List.length_cons,
      ih hcolumns, List.length_cons]

theorem length_flatten_transpose {height : ℕ} {columns : List (List α)}
    (h : ∀ column ∈ columns, column.length = height) :
    (transpose height columns).flatten.length = height * columns.length := by
  have hrows : ∀ row ∈ transpose height columns, row.length = columns.length := by
    intro row hrow
    obtain ⟨y, hy, rfl⟩ := List.mem_map.mp hrow
    refine length_filterMap_getElem? fun column hcolumn => ?_
    rw [h column hcolumn]
    exact List.mem_range.mp hy
  rw [length_flatten_of_forall hrows, transpose, List.length_map, List.length_range]

/-- Every row has a sample in every column, whatever order they are stored in. -/
theorem length_samples (file : ArrayFile) (type : ElementType) (height width : ℕ) :
    (file.samples type height width).length = width * height := by
  have hstored : ((pieces type.kind.size (height * width) file.content).map
      (sampleOfBytes type)).length = height * width := by
    rw [List.length_map, length_pieces]
  rw [samples]
  split
  · rw [length_flatten_transpose (length_of_mem_pieces hstored), length_pieces, Nat.mul_comm]
  · rw [hstored, Nat.mul_comm]

/-! ## The rows of a matrix -/

variable {height width : ℕ}

theorem rectangular_rows (file : ArrayFile) (type : ElementType) (hheight : 0 < height) (hwidth : 0 < width) :
    Rectangular width (file.rows type height width) where
  ne_nil := by
    refine List.ne_nil_of_length_pos ?_
    rw [rows, length_pieces]
    exact hheight
  width_pos := hwidth
  length_row := length_of_mem_pieces (file.length_samples type height width)

theorem flatten_rows (file : ArrayFile) (type : ElementType) :
    (file.rows type height width).flatten = file.samples type height width :=
  flatten_pieces (file.length_samples type height width)

/-- A matrix that is not empty makes a grid of its samples. -/
theorem ofRows_rows (file : ArrayFile) (type : ElementType) (hheight : 0 < height) (hwidth : 0 < width)
    (cellType : CellType) (noData : Scalar) :
    Grid.ofRows (.ofRows (file.rows type height width)) cellType noData =
      .ok ⟨cellType, width, height, noData, (file.samples type height width).toArray, hwidth, hheight,
        file.length_samples type height width⟩ := by
  have hlength : (file.rows type height width).length = height := length_pieces width height _
  rw [Grid.ofRows, Block.shape?_ofRows (file.rectangular_rows type hheight hwidth), Block.items_ofRows, hlength,
    flatten_rows]
  exact Grid.make_ofList hwidth hheight (file.length_samples type height width) cellType noData

end RasterAlgebra.ArrayFile
