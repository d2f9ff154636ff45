import RasterAlgebra.Algebra.Scalar
/-!
# Testing bits

A grid of 16-bit words can be tested against a scalar: a cell becomes 1 where the word in it shares a
set bit with the scalar. Cells and scalar lose their fraction and are taken modulo `2 ^ 16`, so a negative
number stands for its two's complement.
-/

namespace RasterAlgebra

/-- The residue of a whole number modulo `2 ^ 16`. -/
def wordOf (n : Int) : Nat := (n % 65536).toNat

/-- The largest magnitude that a cell keeps when its bits are read; larger cells are cut to it. -/
def cellLimit : Int := 1073741824

/-- The whole number that a cell stands for when its bits are read. What is no number counts as zero, and
an infinite cell as the limit. -/
def cellInteger (c : Sample) : Int :=
  match c.toModel.unpack with
  | .infinity sign => sign.apply cellLimit
  | x => max (-cellLimit) (min cellLimit (wholePart x))

/-- Whether a cell shares a set bit with a word. -/
def sharesBit (c : Sample) (word : Nat) : Bool := (wordOf (cellInteger c) &&& word) != 0

namespace Failure

/-- Cells of this type have no bits to test. -/
def noWords (cellType : CellType) : Failure :=
  ⟨.masking, "masking not implemented for cell type " ++ cellType.name⟩

/-- The scalar has no bits to test. -/
def notFinite (x : Scalar) : Failure :=
  ⟨.masking, "mask value must be finite, got " ++ Decimal.exact x⟩

end Failure

/-- Marks the cells that share a set bit with a scalar. -/
def bitTest (g : Grid) (x : Scalar) : Value :=
  if !g.cellType.isWord then .error (.noWords g.cellType)
  else if !x.isFinite then .error (.notFinite x)
  else
    let word := wordOf (wholePart x.toModel.unpack)
    .raster (g.map .boolean fun c => .ofBool (sharesBit c word))

end RasterAlgebra
