import RasterAlgebra.Block
import RasterAlgebra.CellType
import RasterAlgebra.Decimal.Text
import RasterAlgebra.Sample
import RasterAlgebra.Text.Quoted
/-!
# Grids

A grid is one band of a raster: `width * height` samples in row-major order, a declared cell type, and
one no-data value for all cells. Both extents are positive and the count of samples fits them; the type
holds both facts, so an operation that builds a grid shows them. Requests that cannot be met are
`Grid.Error`s.
-/

namespace RasterAlgebra

/-- A single-band raster. -/
structure Grid where
  cellType : CellType
  width : Nat
  height : Nat
  /-- The value that marks a cell without data. It is a scalar and becomes a sample only where it is
  written into a cell. -/
  noData : Scalar
  /-- The samples, row after row. -/
  cells : Array Sample
  width_pos : 0 < width
  height_pos : 0 < height
  size_cells : cells.size = width * height

/-! ## Requests for grids -/

/-- An extent that is asked for. Any number can be asked for; grids have whole positive extents. -/
inductive Extent where
  | whole (n : Int)
  | real (x : Scalar)

namespace Extent

/-- An extent as messages show it. -/
def text : Extent → String
  | whole n => toString n
  | real x => Decimal.exact x

/-- An extent as a scalar. -/
def toScalar : Extent → Scalar
  | whole n => .ofInt n
  | real x => x

/-- The count of cells, whole if both extents were given as whole numbers. -/
def mul : Extent → Extent → Extent
  | whole m, whole n => whole (m * n)
  | a, b => real (a.toScalar * b.toScalar)

end Extent

/-- Why a grid could not be made or a cell not be read. -/
inductive Grid.Error where
  | unknownCellType (name : String)
  | infiniteExtent
  /-- An extent is none of the numbers. -/
  | missingExtent
  | fractionalExtents (width height : Extent)
  | emptyExtents (width height : Extent)
  /-- The samples should have been one list. -/
  | notOneDimensional (shape : List Nat)
  /-- The samples should have been a list of rows. -/
  | notTwoDimensional (shape : List Nat)
  | sampleCount (found : Nat) (width height : Extent)
  /-- Lists of samples that stand side by side differ in shape. -/
  | ragged
  /-- Something else than a whole number of samples is asked for, or fewer than none. -/
  | badCount (count : Extent)
  | outside (x y : Int) (width height : Nat)

/-- The text of an error. -/
def Grid.Error.message : Grid.Error → String
  | unknownCellType name => "Unknown cell type " ++ Text.quoted name
  | infiniteExtent => "cannot convert float infinity to integer"
  | missingExtent => "cannot convert float NaN to integer"
  | fractionalExtents w h => "Grid dimensions must be integers, got " ++ w.text ++ "x" ++ h.text
  | emptyExtents w h => "Grid dimensions must be positive, got " ++ w.text ++ "x" ++ h.text
  | notOneDimensional shape => "Grid data must be one-dimensional, got shape " ++ shapeText shape
  | notTwoDimensional shape => "Grid rows must be two-dimensional, got shape " ++ shapeText shape
  | sampleCount found w h =>
    "Grid data has " ++ Nat.repr found ++ " samples, expected " ++ w.text ++ "x" ++ h.text ++ "=" ++
      (w.mul h).text
  | ragged => "Grid rows must have one length"
  | badCount count => "Grid cannot have " ++ count.text ++ " samples"
  | outside x y w h =>
    "Cell (" ++ toString x ++ ", " ++ toString y ++ ") is outside a " ++ Nat.repr w ++ "x" ++
      Nat.repr h ++ " grid"

namespace Grid

/-- The cell type of a name, or the error that names it. -/
def cellTypeNamed (name : String) : Except Error CellType :=
  match CellType.ofName? name with
  | some cellType => .ok cellType
  | none => .error (.unknownCellType name)

/-- An extent as a whole number, or the error that it is none; `fractional` is that of a finite one. -/
def wholeExtent (fractional : Error) : Extent → Except Error Int
  | .whole n => .ok n
  | .real x =>
    if x.isNaN then .error .missingExtent
    else if x.isInf then .error .infiniteExtent
    else match Decimal.whole? x with
      | some n => .ok n
      | none => .error fractional

/-- Width and height as whole numbers. The width is looked at first. -/
def wholeExtents (width height : Extent) : Except Error (Int × Int) := do
  let w ← wholeExtent (.fractionalExtents width height) width
  return (w, ← wholeExtent (.fractionalExtents width height) height)

/-- A grid of the given extents and samples. The extents are looked at before the samples, and the shape
of the samples before their count. -/
def make (cellType : CellType) (width height : Extent) (samples : Block Sample) (noData : Scalar) :
    Except Error Grid :=
  match wholeExtents width height with
  | .ok (w, h) =>
    if hpos : 0 < w ∧ 0 < h then
      match samples.shape? with
      | none => .error .ragged
      | some [_] =>
        let cells := samples.items.toArray
        if hsize : cells.size = w.toNat * h.toNat then
          .ok
            { cellType, width := w.toNat, height := h.toNat, noData, cells
              width_pos := by omega
              height_pos := by omega
              size_cells := hsize }
        else .error (.sampleCount cells.size width height)
      | some shape => .error (.notOneDimensional shape)
    else .error (.emptyExtents width height)
  | .error e => .error e

/-- A grid whose samples are given row by row. -/
def ofRows (rows : Block Sample) (cellType : CellType) (noData : Scalar) : Except Error Grid :=
  match rows.shape? with
  | none => .error .ragged
  | some [height, width] =>
    make cellType (.whole width) (.whole height) (.ofList rows.items) noData
  | some shape => .error (.notTwoDimensional shape)

/-- A grid with one sample in every cell. The count of samples is looked at before the extents. -/
def filled (width height : Extent) (x : Sample) (cellType : CellType) (noData : Scalar) :
    Except Error Grid :=
  match width.mul height with
  | .whole count =>
    if count < 0 then .error (.badCount (.whole count))
    else make cellType width height (.ofList (List.replicate count.toNat x)) noData
  | count => .error (.badCount count)

/-- A grid with this grid's extents and no-data value and the given samples. -/
def withSamples (g : Grid) (samples : Block Sample) (cellType : CellType) : Except Error Grid :=
  make cellType (.whole g.width) (.whole g.height) samples g.noData

/-! ## Cells -/

/-- The position of a cell among the samples is in range. -/
theorem index_lt (g : Grid) {x y : Nat} (hx : x < g.width) (hy : y < g.height) :
    y * g.width + x < g.cells.size := by
  have hle : (y + 1) * g.width ≤ g.height * g.width := Nat.mul_le_mul_right _ hy
  rw [Nat.add_mul, Nat.one_mul] at hle
  rw [g.size_cells, Nat.mul_comm g.width]
  omega

/-- The sample in column `x` of row `y`. -/
def get (g : Grid) (x y : Nat) (hx : x < g.width) (hy : y < g.height) : Sample :=
  have := g.index_lt hx hy
  g.cells[y * g.width + x]

/-- The sample in column `x` of row `y`, for any numbers. -/
def cell (g : Grid) (x y : Int) : Except Error Sample :=
  if h : 0 ≤ x ∧ x < g.width ∧ 0 ≤ y ∧ y < g.height then
    .ok (g.get x.toNat y.toNat (by omega) (by omega))
  else .error (.outside x y g.width g.height)

/-- The samples of row `y`. -/
def row (g : Grid) (y : Nat) : List Sample :=
  (g.cells.toList.drop (y * g.width)).take g.width

/-- The samples, row by row. -/
def rows (g : Grid) : List (List Sample) := (List.range g.height).map g.row

/-- Height and width. -/
def shape (g : Grid) : Nat × Nat := (g.height, g.width)

/-! ## Comparing grids -/

/-- Equal width and equal height. -/
abbrev SameExtents (g h : Grid) : Prop := g.width = h.width ∧ g.height = h.height

/-- Equal no-data values, where one that is no number equals another. -/
def sameNoData (g h : Grid) : Bool := (g.noData.isNaN && h.noData.isNaN) || g.noData == h.noData

/-- Equal in everything, where what is no number equals itself. -/
def agrees (g h : Grid) : Bool :=
  g.cellType == h.cellType && decide (g.SameExtents h) && g.sameNoData h &&
    (g.cells.toList.zip h.cells.toList).all fun (x, y) => x.agrees y

/-! ## Working on all cells -/

/-- A grid of another type, with a function applied to every sample. -/
def map (g : Grid) (cellType : CellType) (f : Sample → Sample) : Grid :=
  { g with
    cellType
    cells := g.cells.map f
    size_cells := by rw [Array.size_map, g.size_cells] }

/-- A grid with the no-data value of the left grid, its samples computed from those of both. -/
def zipWith (g h : Grid) (same : g.SameExtents h) (cellType : CellType)
    (f : Sample → Sample → Sample) : Grid :=
  { g with
    cellType
    cells := g.cells.zipWith f h.cells
    size_cells := by
      rw [Array.size_zipWith, g.size_cells, h.size_cells, ← same.1, ← same.2, Nat.min_self] }

/-- The no-data value as a sample. -/
def noDataSample (g : Grid) : Sample := .ofScalar g.noData

/-! ## Text -/

/-- Width and height as messages show them. -/
def extentsText (g : Grid) : String := Nat.repr g.width ++ "x" ++ Nat.repr g.height

/-- A grid without its samples, for people to read. -/
def describe (g : Grid) : String :=
  "Grid(cell_type=" ++ g.cellType.name ++ ", width=" ++ Nat.repr g.width ++ ", height=" ++
    Nat.repr g.height ++ ", no_data=" ++ Decimal.general g.noData ++ ")"

end Grid

end RasterAlgebra
