import RasterAlgebra.Formula.Node
/-!
# Formulas as text

The canonical text of a formula: every operation stands in parentheses, a blank on either side of an
operator between two operands, and a semicolon behind every statement.
-/

namespace RasterAlgebra

/-- The text of a number: all digits of a whole number, and else the shortest text that reads back. -/
def numberText (x : Scalar) : String :=
  match Decimal.whole? x with
  | some n => toString n
  | none => Decimal.exact x

mutual
/-- The canonical text of a formula. -/
def Node.text : Node → String
  | .number x => numberText x
  | .boolean b => Value.boolText b
  | .band name => name
  | .unary op operand => "(" ++ op ++ operand.text ++ ")"
  | .binary op left right => "(" ++ left.text ++ " " ++ op ++ " " ++ right.text ++ ")"
  | .statement expression => expression.text ++ ";"
  | .block statements => Node.textOfList statements
  | .program statements => Node.textOfList statements
  | .value v => v.inspect
/-- The texts of statements with blanks between them. -/
def Node.textOfList : List Node → String
  | [] => ""
  | [s] => s.text
  | s :: rest => s.text ++ " " ++ Node.textOfList rest
end

end RasterAlgebra
