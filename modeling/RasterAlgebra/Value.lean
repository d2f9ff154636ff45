import RasterAlgebra.Grid
/-!
# Values

What a formula can evaluate to. Failures are values too: an operation that does not apply yields one, and
it ends the evaluation around it.
-/

namespace RasterAlgebra

/-! ## Failures -/

/-- The ways in which an evaluation can fail. -/
inductive Failure.Kind where
  /-- The text is no formula. -/
  | malformed
  | unknownOperator
  | typeMismatch
  | dimensionMismatch
  | compatibility
  | masking
  | dataSource
  deriving DecidableEq, Repr

namespace Failure.Kind

/-- The name of a kind of failure. -/
def name : Kind → String
  | malformed => "syntax"
  | unknownOperator => "unknown_operator"
  | typeMismatch => "type_mismatch"
  | dimensionMismatch => "dimension_mismatch"
  | compatibility => "compatibility"
  | masking => "masking"
  | dataSource => "data_source"

/-- All kinds of failure. -/
def all : List Kind :=
  [malformed, unknownOperator, typeMismatch, dimensionMismatch, compatibility, masking, dataSource]

/-- The kind of failure with a given name. -/
def ofName? (name : String) : Option Kind := all.find? (·.name == name)

end Failure.Kind

/-- A failed evaluation, with a message for people. -/
structure Failure where
  kind : Failure.Kind
  message : String
  deriving DecidableEq, Repr

/-! ## Values and their types -/

/-- The result of an evaluation. -/
inductive Value where
  | number (x : Scalar)
  | boolean (b : Bool)
  | raster (g : Grid)
  | null
  | error (failure : Failure)
  /-- A value on its way out of a program, which hands it on without this layer. -/
  | returned (v : Value)

/-- The type of a value. -/
inductive Value.Kind where
  | number
  | boolean
  | raster
  | null
  | error
  | returned
  deriving DecidableEq, Repr

/-- The name of a type. -/
def Value.Kind.name : Value.Kind → String
  | number => "NUMBER"
  | boolean => "BOOLEAN"
  | raster => "RASTER"
  | null => "NULL"
  | error => "ERROR"
  | returned => "RETURN_VALUE"

namespace Value

/-- The type of a value. -/
def kind : Value → Kind
  | number _ => .number
  | boolean _ => .boolean
  | raster _ => .raster
  | null => .null
  | error _ => .error
  | returned _ => .returned

/-- The words for the truth values. -/
def boolText (b : Bool) : String := if b then "true" else "false"

/-- A value for people to read. Numbers have six decimal places, rasters show no samples. -/
def inspect : Value → String
  | number x => Decimal.fixed 6 x
  | boolean b => boolText b
  | raster g =>
    "raster " ++ g.cellType.name ++ " " ++ g.extentsText ++ " nodata=" ++ Decimal.general g.noData
  | null => "null"
  | error failure => "ERROR: " ++ failure.message
  | returned v => v.inspect

/-- Whether a value counts as true: all do but null and false. -/
def isTruthy : Value → Bool
  | null => false
  | boolean b => b
  | _ => true

/-- Whether a value is a failure. -/
def isError : Value → Bool
  | error _ => true
  | _ => false

/-- Equal in type and content. Two rasters are never equal, and neither are two things that are no
number. Values have no identity here: a returned value that holds one of these differs from every other,
also where it is compared with itself. -/
def same : Value → Value → Bool
  | number x, number y => x == y
  | boolean a, boolean b => a == b
  | null, null => true
  | error a, error b => a == b
  | returned v, returned w => v.same w
  | _, _ => false

/-- How many calls are nested when two values are compared: three for every layer that both have. -/
def comparisonCalls : Value → Value → Nat
  | returned v, returned w => v.comparisonCalls w + 3
  | _, _ => 0

end Value

end RasterAlgebra
