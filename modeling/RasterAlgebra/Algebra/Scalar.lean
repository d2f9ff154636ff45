import RasterAlgebra.Value
/-!
# Operators on numbers

The four arithmetic operators, which work on scalars and on samples alike, and the four comparisons of
scalars. Arithmetic is that of IEEE 754, so a division by zero has a result.
-/

namespace RasterAlgebra

/-- The operators that numbers and rasters share. -/
inductive Arithmetic where
  | add
  | sub
  | mul
  | div
  deriving DecidableEq, Repr

namespace Arithmetic

/-- The operator with a given symbol. -/
def ofSymbol? : String → Option Arithmetic
  | "+" => some add
  | "-" => some sub
  | "*" => some mul
  | "/" => some div
  | _ => none

/-- The operator on scalars. -/
def onScalars : Arithmetic → Scalar → Scalar → Scalar
  | add, x, y => x + y
  | sub, x, y => x - y
  | mul, x, y => x * y
  | div, x, y => x / y

/-- The operator on samples. -/
def onSamples : Arithmetic → Sample → Sample → Sample
  | add, x, y => x + y
  | sub, x, y => x - y
  | mul, x, y => x * y
  | div, x, y => x / y

/-- The cell type of a result: quotients are fractional whatever their operands were. -/
def cellType : Arithmetic → CellType → CellType
  | div, _ => .float32
  | _, cellType => cellType

end Arithmetic

/-- The operators that compare numbers. -/
inductive Comparison where
  | less
  | greater
  | equal
  | notEqual
  deriving DecidableEq, Repr

namespace Comparison

/-- The comparison with a given symbol. -/
def ofSymbol? : String → Option Comparison
  | "<" => some less
  | ">" => some greater
  | "==" => some equal
  | "!=" => some notEqual
  | _ => none

/-- Whether a comparison holds of two scalars. What is no number differs from everything. -/
def holds : Comparison → Scalar → Scalar → Bool
  | less, x, y => x < y
  | greater, x, y => y < x
  | equal, x, y => x == y
  | notEqual, x, y => x != y

end Comparison

namespace Failure

/-- The operator does not apply to operands of these types. -/
def unknownBinary (left : Value.Kind) (op : String) (right : Value.Kind) : Failure :=
  ⟨.unknownOperator, "unknown operator: " ++ left.name ++ " " ++ op ++ " " ++ right.name⟩

/-- The operator does not apply to an operand of this type. -/
def unknownUnary (op : String) (right : Value.Kind) : Failure :=
  ⟨.unknownOperator, "unknown operator: " ++ op ++ right.name⟩

/-- The operands should have had one type. -/
def typeMismatch (left : Value.Kind) (op : String) (right : Value.Kind) : Failure :=
  ⟨.typeMismatch, "type mismatch: " ++ left.name ++ " " ++ op ++ " " ++ right.name⟩

end Failure

/-- An operator between two numbers. -/
def numberBinary (op : String) (x y : Scalar) : Value :=
  match Arithmetic.ofSymbol? op with
  | some arithmetic => .number (arithmetic.onScalars x y)
  | none =>
    match Comparison.ofSymbol? op with
    | some comparison => .boolean (comparison.holds x y)
    | none => .error (.unknownBinary .number op .number)

end RasterAlgebra
