import RasterAlgebra.Value
/-!
# Formula nodes

The tree of a formula. Operators are kept as their text, so that a tree may hold operators that no text
of a formula has; evaluating such a node fails. A `value` node stands for a value that is given from
outside.
-/

namespace RasterAlgebra

/-- A part of a formula. -/
inductive Node where
  | number (x : Scalar)
  | boolean (b : Bool)
  /-- A band by its name; there are no variables. -/
  | band (name : String)
  | unary (op : String) (operand : Node)
  | binary (op : String) (left right : Node)
  /-- An expression that stands as a statement. -/
  | statement (expression : Node)
  | block (statements : List Node)
  | program (statements : List Node)
  | value (v : Value)

mutual
/-- The bands that a node names, from left to right. -/
def Node.bands : Node → List String
  | .number _ | .boolean _ | .value _ => []
  | .band name => [name]
  | .unary _ operand => operand.bands
  | .binary _ left right => left.bands ++ right.bands
  | .statement expression => expression.bands
  | .block statements | .program statements => Node.bandsOfList statements
/-- The bands that a list of nodes names, from left to right. -/
def Node.bandsOfList : List Node → List String
  | [] => []
  | n :: rest => n.bands ++ Node.bandsOfList rest
end

end RasterAlgebra
