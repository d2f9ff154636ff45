import Mathlib.Tactic.Common
import Mathlib.Data.Nat.Notation
import RasterAlgebra.Grid

/-!
# Grids pass the checks that made them

A list of as many samples as a grid has cells is what a grid can be made of (`make_ofList`), and so are rows of one
length (`ofRows_of_rectangular`). What is computed cell by cell is such a list (`withSamples_map`,
`withSamples_zipWith`).
-/

namespace RasterAlgebra

/-- Rows of a grid: at least one, and all of the same positive length. -/
structure Rectangular {α : Type} (width : ℕ) (rows : List (List α)) : Prop where
  ne_nil : rows ≠ []
  width_pos : 0 < width
  length_row : ∀ row ∈ rows, row.length = width

theorem length_flatten_of_forall {α : Type} {size : ℕ} {rows : List (List α)}
    (h : ∀ row ∈ rows, row.length = size) : rows.flatten.length = rows.length * size := by
  rw [List.length_flatten, List.map_congr_left h, List.map_const', List.sum_replicate_nat]

theorem Rectangular.length_flatten {α : Type} {width : ℕ} {rows : List (List α)} (h : Rectangular width rows) :
    rows.flatten.length = width * rows.length := by
  rw [length_flatten_of_forall h.length_row, Nat.mul_comm]

namespace Block

variable {α : Type}

/-- Blocks of one shape have it in common. -/
theorem commonShape?_of_forall {blocks : List (Block α)} {shape : List ℕ} (hne : blocks ≠ [])
    (h : ∀ b ∈ blocks, b.shape? = some shape) : commonShape? blocks = some shape := by
  induction blocks with
  | nil => exact absurd rfl hne
  | cons b blocks ih =>
    obtain ⟨hb, hblocks⟩ := List.forall_mem_cons.mp h
    cases blocks with
    | nil => rw [commonShape?, hb]
    | cons b' blocks =>
      rw [commonShape?, hb, ih (List.cons_ne_nil _ _) hblocks]
      · exact if_pos rfl
      · exact List.cons_ne_nil _ _

theorem commonShape?_items (xs : List α) : commonShape? (xs.map item) = some [] := by
  cases xs with
  | nil => rfl
  | cons x xs =>
    apply commonShape?_of_forall
    · exact List.cons_ne_nil _ _
    · intro b hb
      obtain ⟨y, -, rfl⟩ := List.mem_map.mp hb
      rfl

theorem shape?_ofList (xs : List α) : (ofList xs).shape? = some [xs.length] := by
  rw [ofList, shape?, commonShape?_items, List.length_map]
  rfl

theorem itemsOfList_items (xs : List α) : itemsOfList (xs.map item) = xs := by
  induction xs with
  | nil => rfl
  | cons x xs ih =>
    rw [List.map_cons, itemsOfList, ih]
    rfl

theorem items_ofList (xs : List α) : (ofList xs).items = xs := by
  rw [ofList, items, itemsOfList_items]

/-- Rows of one length are a block of two dimensions. -/
theorem shape?_ofRows {width : ℕ} {rows : List (List α)} (h : Rectangular width rows) :
    (ofRows rows).shape? = some [rows.length, width] := by
  have hcommon : commonShape? (rows.map ofList) = some [width] := by
    apply commonShape?_of_forall
    · rw [ne_eq, List.map_eq_nil_iff]
      exact h.ne_nil
    · intro b hb
      obtain ⟨row, hrow, rfl⟩ := List.mem_map.mp hb
      rw [shape?_ofList, h.length_row row hrow]
  rw [ofRows, shape?, hcommon, List.length_map]
  rfl

theorem items_ofRows (rows : List (List α)) : (ofRows rows).items = rows.flatten := by
  rw [ofRows, items]
  induction rows with
  | nil => rfl
  | cons row rows ih => rw [List.map_cons, itemsOfList, ih, items_ofList, List.flatten_cons]

end Block

namespace Grid

/-- Samples of the right count are accepted as they are. -/
theorem make_ofList {width height : ℕ} (hwidth : 0 < width) (hheight : 0 < height) {xs : List Sample}
    (hxs : xs.length = width * height) (cellType : CellType) (noData : Scalar) :
    make cellType (.whole width) (.whole height) (.ofList xs) noData =
      .ok ⟨cellType, width, height, noData, xs.toArray, hwidth, hheight, hxs⟩ := by
  have hextents : wholeExtents (.whole width) (.whole height) = .ok ((width : Int), (height : Int)) := rfl
  have hpos : 0 < (width : Int) ∧ 0 < (height : Int) :=
    ⟨Int.natCast_pos.mpr hwidth, Int.natCast_pos.mpr hheight⟩
  rw [make, hextents]
  simp only [Block.shape?_ofList, Block.items_ofList]
  exact (dif_pos hpos).trans (dif_pos hxs)

/-- Rows of one length are accepted as they are. -/
theorem ofRows_of_rectangular {width : ℕ} {rows : List (List Sample)} (h : Rectangular width rows)
    (cellType : CellType) (noData : Scalar) :
    ofRows (.ofRows rows) cellType noData =
      .ok ⟨cellType, width, rows.length, noData, rows.flatten.toArray, h.width_pos,
        List.length_pos_iff.mpr h.ne_nil, h.length_flatten⟩ := by
  rw [ofRows, Block.shape?_ofRows h, Block.items_ofRows]
  exact make_ofList h.width_pos (List.length_pos_iff.mpr h.ne_nil) h.length_flatten cellType noData

theorem withSamples_ofList (g : Grid) {xs : List Sample} (hxs : xs.length = g.width * g.height)
    (cellType : CellType) :
    g.withSamples (.ofList xs) cellType =
      .ok { g with cellType, cells := xs.toArray, size_cells := hxs } :=
  make_ofList g.width_pos g.height_pos hxs cellType g.noData

theorem length_toList_cells (g : Grid) : g.cells.toList.length = g.width * g.height :=
  Array.length_toList.trans g.size_cells

theorem withSamples_map (g : Grid) (cellType : CellType) (f : Sample → Sample) :
    g.withSamples (.ofList (g.cells.toList.map f)) cellType = .ok (g.map cellType f) := by
  have hlength : (g.cells.toList.map f).length = g.width * g.height := by
    rw [List.length_map, length_toList_cells]
  rw [withSamples_ofList g hlength]
  simp only [map, ← Array.toList_map, Array.toArray_toList]

theorem withSamples_zipWith (g h : Grid) (same : g.SameExtents h) (cellType : CellType)
    (f : Sample → Sample → Sample) :
    g.withSamples (.ofList (g.cells.toList.zipWith f h.cells.toList)) cellType =
      .ok (g.zipWith h same cellType f) := by
  have hlength : (g.cells.toList.zipWith f h.cells.toList).length = g.width * g.height := by
    rw [List.length_zipWith, length_toList_cells, length_toList_cells, ← same.1, ← same.2,
      Nat.min_self]
  rw [withSamples_ofList g hlength]
  simp only [zipWith, ← Array.toList_zipWith, Array.toArray_toList]

end Grid

end RasterAlgebra
