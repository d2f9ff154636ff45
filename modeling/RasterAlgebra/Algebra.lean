import RasterAlgebra.Algebra.Raster
/-!
# Operators on values

Which operator applies to which types of values. Numbers and rasters have operators of their own; all
other values can be tested for equality with values of their type.
-/

namespace RasterAlgebra

/-- An operator between values that have no operators of their own: two values of one type can be tested for
equality. -/
def Value.compare (op : String) (v w : Value) : Value :=
  if v.kind ≠ w.kind then .error (.typeMismatch v.kind op w.kind)
  else if op = "==" then .boolean (v.same w)
  else if op = "!=" then .boolean (!v.same w)
  else .error (.unknownBinary v.kind op w.kind)

/-- An operator between two values. -/
def Value.binary (policy : DivisionPolicy) (op : String) : Value → Value → Value
  | .number x, .number y => numberBinary op x y
  | .raster g, .number x => broadcast policy op .right g x
  | .number x, .raster g => broadcast policy op .left g x
  | .raster g, .raster h => rasterBinary policy op g h
  | v, w => .compare op v w

/-- An operator in front of a value. -/
def Value.unary (op : String) (v : Value) : Value :=
  if op = "!" then .boolean (!v.isTruthy)
  else if op = "-" then
    match v with
    | .number x => .number (-x)
    | v => .error (.unknownUnary op v.kind)
  else .error (.unknownUnary op v.kind)

end RasterAlgebra
