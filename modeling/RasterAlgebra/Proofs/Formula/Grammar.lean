import Mathlib.Data.Int.Notation
import Mathlib.Tactic.Common
import RasterAlgebra.Formula.Parser

/-!
# The grammar of formulas

What the reader of formulas is measured against. Operators between two operands stand in five tiers, and
a phrase of a tier is a chain of phrases of the next one that groups to the left:

  `tier t  := tier t  op  tighter t | tighter t`     for `op` among the operators of `t`
  `operand := ('!' | '-') operand | atom`
  `atom    := identifier | number | 'true' | 'false' | '(' tier mask ')'`

A `Derivation` is a derivation tree of a phrase. It has the tokens that it covers, the node that it
stands for (without parentheses), and its nesting, which counts the phrases that a reader is inside of
at the deepest leaf. A program is a list of derivations with the tokens that they cover, each with or
without a semicolon behind it (`Program`).
-/

namespace RasterAlgebra

/-! ## Trees and their leaves -/

namespace Node

/-- The depth of the tree of an expression; a leaf has depth one. -/
def depth : Node → ℕ
  | unary _ right => right.depth + 1
  | binary _ left right => max left.depth right.depth + 1
  | _ => 1

/-- Nodes that a text can have as expressions: no statements, and no values given from outside. -/
inductive IsExpression : Node → Prop where
  | number (x : Scalar) : IsExpression (.number x)
  | boolean (b : Bool) : IsExpression (.boolean b)
  | band (name : String) : IsExpression (.band name)
  | unary (op : String) {operand : Node} (h : IsExpression operand) :
      IsExpression (.unary op operand)
  | binary (op : String) {left right : Node} (hleft : IsExpression left)
      (hright : IsExpression right) : IsExpression (.binary op left right)

/-- Nodes that a text can have as statements. -/
inductive IsStatement : Node → Prop where
  | mk {n : Node} (h : n.IsExpression) : IsStatement (.statement n)

/-- What stands in a formula apart from parentheses and semicolons. -/
inductive Symbol where
  | leaf (n : Node)
  | operator (text : String)

/-- The leaves and operators of an expression in the order in which they are written. -/
def inOrder : Node → List Symbol
  | unary op right => .operator op :: right.inOrder
  | binary op left right => left.inOrder ++ .operator op :: right.inOrder
  | statement expression => expression.inOrder
  | n => [.leaf n]

end Node

namespace Token

/-- The leaf that a token is by itself. -/
def leaf? (t : Token) : Option Node :=
  match t.kind with
  | .ident => some (.band t.text)
  | .number => some (.number (Decimal.ofLexeme t.text.toList))
  | .trueWord => some (.boolean true)
  | .falseWord => some (.boolean false)
  | _ => none

/-- The leaf or operator that a token is. Parentheses and semicolons are neither. -/
def symbol? (t : Token) : Option Node.Symbol :=
  match t.leaf? with
  | some n => some (.leaf n)
  | none => if t.kind ∈ [.leftParen, .rightParen, .semicolon] then none else some (.operator t.text)

end Token

/-! ## Phrases -/

namespace Grammar

/-- The tiers of operators between two operands, loosest first. -/
inductive Tier where
  | mask
  | equality
  | order
  | sum
  | product
  deriving DecidableEq, Repr

/-- What a derivation can be a derivation of. -/
inductive Phrase where
  | tier (t : Tier)
  | operand
  | atom
  deriving DecidableEq, Repr

/-- A whole expression. -/
abbrev Phrase.expression : Phrase := .tier .mask

namespace Tier

/-- The operators of a tier. -/
def operators : Tier → List Token.Kind
  | mask => [.hash]
  | equality => [.equal, .notEqual]
  | order => [.less, .greater]
  | sum => [.plus, .minus]
  | product => [.asterisk, .slash]

/-- The phrases between the operators of a tier. -/
def tighter : Tier → Phrase
  | mask => .tier equality
  | equality => .tier order
  | order => .tier sum
  | sum => .tier product
  | product => .operand

end Tier

/-- The operators in front of an operand. -/
def unaryOperators : List Token.Kind := [.bang, .minus]

/-- A derivation tree of a phrase. -/
inductive Derivation : Phrase → Type where
  | leaf (t : Token) (n : Node) (hleaf : t.leaf? = some n) : Derivation .atom
  | group (opening : Token) (inner : Derivation .expression) (closing : Token)
      (hopening : opening.kind = .leftParen) (hclosing : closing.kind = .rightParen) :
      Derivation .atom
  | atom (inner : Derivation .atom) : Derivation .operand
  | unary (op : Token) (right : Derivation .operand) (hop : op.kind ∈ unaryOperators) :
      Derivation .operand
  | tighter {t : Tier} (inner : Derivation t.tighter) : Derivation (.tier t)
  | binary {t : Tier} (left : Derivation (.tier t)) (op : Token) (right : Derivation t.tighter)
      (hop : op.kind ∈ t.operators) : Derivation (.tier t)

namespace Derivation

/-- The tokens that a derivation covers. -/
def tokens : {p : Phrase} → Derivation p → List Token
  | _, leaf t _ _ => [t]
  | _, group opening inner closing _ _ => opening :: (inner.tokens ++ [closing])
  | _, atom inner => inner.tokens
  | _, unary op right _ => op :: right.tokens
  | _, tighter inner => inner.tokens
  | _, binary left op right _ => left.tokens ++ op :: right.tokens

/-- The tree that a derivation stands for. Parentheses leave no trace in it. -/
def node : {p : Phrase} → Derivation p → Node
  | _, leaf _ n _ => n
  | _, group _ inner _ _ _ => inner.node
  | _, atom inner => inner.node
  | _, unary op right _ => .unary op.text right.node
  | _, tighter inner => inner.node
  | _, binary left op right _ => .binary op.text left.node right.node

/-- How many phrases a reader is inside of at the deepest leaf: one, and one more for every pair of
parentheses, operator in front, and operator to the left that the leaf stands behind. -/
def nesting : {p : Phrase} → Derivation p → ℕ
  | _, leaf .. => 1
  | _, group _ inner _ _ _ => inner.nesting + 1
  | _, atom inner => inner.nesting
  | _, unary _ right _ => right.nesting + 1
  | _, tighter inner => inner.nesting
  | _, binary left _ right _ => max left.nesting (right.nesting + 1)

/-- The statement that an expression is. -/
def statement (d : Derivation .expression) : Node := .statement d.node

end Derivation

/-! ## Programs -/

/-- The tokens do not start with an operator between two operands, so that no expression in front of them
can go on. -/
def Cuts (ts : List Token) : Prop := ∀ t ∈ ts.head?, ∀ tier : Tier, t.kind ∉ tier.operators

/-- `Program cut ts ds`: the tokens `ts` are the statements `ds` in order. A statement may end without a
semicolon where `cut` holds of the tokens behind it. -/
inductive Program (cut : List Token → Prop) :
    List Token → List (Derivation .expression) → Prop where
  | nil : Program cut [] []
  | bare (d : Derivation .expression) {ts : List Token} {ds : List (Derivation .expression)}
      (hcut : cut ts) (rest : Program cut ts ds) : Program cut (d.tokens ++ ts) (d :: ds)
  | terminated (d : Derivation .expression) (semicolon : Token)
      (hsemicolon : semicolon.kind = .semicolon) {ts : List Token}
      {ds : List (Derivation .expression)} (rest : Program cut ts ds) :
      Program cut (d.tokens ++ semicolon :: ts) (d :: ds)

/-- Programs by the rules of the grammar alone: statements may end anywhere. -/
abbrev Derives : List Token → List (Derivation .expression) → Prop := Program fun _ => True

/-- Programs whose statements are as long as they can be. -/
abbrev DerivesGreedily : List Token → List (Derivation .expression) → Prop := Program Cuts

end Grammar

end RasterAlgebra
