import RasterAlgebra.Algebra.Word
/-!
# Operators on rasters

A scalar is broadcast over a raster, two rasters are combined cell by cell, and a Boolean raster masks
another one. All of it is cell by cell: no cell looks at its neighbours, and the extents, the cell types
and the no-data values alone decide whether an operator applies.
-/

namespace RasterAlgebra

/-- What becomes of a cell that is divided by zero. -/
inductive DivisionPolicy where
  /-- It holds what the division yields. -/
  | ieee
  /-- It holds the no-data value. -/
  | noData
  deriving DecidableEq, Repr

namespace DivisionPolicy

/-- The name of a policy. -/
def name : DivisionPolicy → String
  | ieee => "ieee"
  | noData => "nodata"

/-- All policies. -/
def all : List DivisionPolicy := [ieee, noData]

/-- The policy with a given name. -/
def ofName? (name : String) : Option DivisionPolicy := all.find? (·.name == name)

/-- The policy that a name stands for where names are not checked: only `nodata` is special. -/
def ofAnyName (name : String) : DivisionPolicy := (ofName? name).getD .ieee

end DivisionPolicy

/-- One cell of a result. Under the no-data policy a quotient by zero is the no-data value. -/
def Arithmetic.onCells (op : Arithmetic) (policy : DivisionPolicy) (noData : Sample)
    (x y : Sample) : Sample :=
  if op = .div ∧ policy = .noData ∧ (y == 0) = true then noData else op.onSamples x y

/-- On which side of the operator the scalar stands. -/
inductive ScalarSide where
  | left
  | right
  deriving DecidableEq, Repr

/-- An operator between a raster and a scalar. Equality is the bit test, whatever the order. -/
def broadcast (policy : DivisionPolicy) (op : String) (side : ScalarSide) (g : Grid) (x : Scalar) :
    Value :=
  if op = "==" then bitTest g x
  else
    match Arithmetic.ofSymbol? op, side with
    | none, .left => .error (.unknownBinary .number op .raster)
    | none, .right => .error (.unknownBinary .raster op .number)
    | some arithmetic, .left =>
      .raster (g.map (arithmetic.cellType g.cellType)
        (arithmetic.onCells policy g.noDataSample (.ofScalar x) ·))
    | some arithmetic, .right =>
      .raster (g.map (arithmetic.cellType g.cellType)
        (arithmetic.onCells policy g.noDataSample · (.ofScalar x)))

namespace Failure

/-- A mask has to cover the raster that it masks. -/
def maskExtents (g mask : Grid) : Failure :=
  ⟨.masking, "mask dimensions differ: " ++ g.extentsText ++ " # " ++ mask.extentsText⟩

/-- A mask has to be Boolean. -/
def maskType (cellType : CellType) : Failure :=
  ⟨.masking, "mask operand must be " ++ CellType.boolean.name ++ ", got " ++ cellType.name⟩

/-- Rasters of different extents. -/
def extents (op : String) (g h : Grid) : Failure :=
  ⟨.dimensionMismatch,
    "dimension mismatch: " ++ g.extentsText ++ " " ++ op ++ " " ++ h.extentsText⟩

/-- Rasters of different cell types. -/
def cellTypes (op : String) (g h : Grid) : Failure :=
  ⟨.compatibility,
    "incompatible cell types: " ++ g.cellType.name ++ " " ++ op ++ " " ++ h.cellType.name⟩

/-- Rasters with different no-data values. -/
def noDataValues (op : String) (g h : Grid) : Failure :=
  ⟨.compatibility,
    "incompatible no-data values: " ++ Decimal.general g.noData ++ " " ++ op ++ " " ++
      Decimal.general h.noData⟩

end Failure

/-- One cell under a mask: the no-data value where the mask is exactly 1. -/
def maskCell (noData c m : Sample) : Sample := if m == 1 then noData else c

/-- Puts the no-data value into the cells that a Boolean raster marks. -/
def applyMask (g mask : Grid) : Value :=
  if same : g.SameExtents mask then
    if mask.cellType = .boolean then
      .raster (g.zipWith mask same g.cellType (maskCell g.noDataSample))
    else .error (.maskType mask.cellType)
  else .error (.maskExtents g mask)

/-- An operator between two rasters. -/
def rasterBinary (policy : DivisionPolicy) (op : String) (g h : Grid) : Value :=
  if op = "#" then applyMask g h
  else
    match Arithmetic.ofSymbol? op with
    | none => .error (.unknownBinary .raster op .raster)
    | some arithmetic =>
      if same : g.SameExtents h then
        if g.cellType ≠ h.cellType then .error (.cellTypes op g h)
        else if !g.sameNoData h then .error (.noDataValues op g h)
        else
          .raster (g.zipWith h same (arithmetic.cellType g.cellType)
            (arithmetic.onCells policy g.noDataSample))
      else .error (.extents op g h)

end RasterAlgebra
