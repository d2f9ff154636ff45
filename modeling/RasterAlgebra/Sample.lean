import RasterAlgebra.Decimal.Magnitude
/-!
# Samples and scalars

The cells of a grid are samples, binary32 numbers; numbers outside of grids are scalars, binary64
numbers. A scalar, a whole number or any exact number becomes a sample by one rounding to the nearest,
ties to even (`Sample.ofUnpacked`); a sample becomes a scalar as it is (`Sample.toScalar`). `wholePart` drops
the fraction of an exact number.
-/

namespace RasterAlgebra

open Float.Model (UnpackedFloat)

/-- The content of a cell. -/
abbrev Sample := Float32

/-- A number outside of grids. -/
abbrev Scalar := Float

namespace Sample

/-- The sample nearest to an exact number. -/
def ofUnpacked : UnpackedFloat → Sample
  | .finite sign m e _ => .ofModel (.pack (.round .binary32 sign m e))
  | x => .ofModel (.pack x)

/-- The sample nearest to a scalar. -/
def ofScalar (x : Scalar) : Sample := ofUnpacked x.toModel.unpack

/-- A sample as a scalar. -/
def toScalar (c : Sample) : Scalar :=
  match c.toModel.unpack with
  | .finite sign m e _ => .ofModel (.pack (.round .binary64 sign m e))
  | x => .ofModel (.pack x)

/-- The sample nearest to a whole number. -/
def ofInt (n : Int) : Sample := .ofModel (.pack (.normalize .binary32 n 0 .positive))

/-- The sample that stands for a truth value. -/
def ofBool (b : Bool) : Sample := if b then 1 else 0

/-- Equal as numbers, or both no number. -/
def agrees (x y : Sample) : Bool := x == y || (x.isNaN && y.isNaN)

end Sample

/-- An exact number without its fraction; zero where there is none. -/
def wholePart : UnpackedFloat → Int
  | .finite sign m e _ =>
    let x := Decimal.Magnitude.ofBinary m e
    sign.apply (x.num / x.den : Nat)
  | _ => 0

end RasterAlgebra
