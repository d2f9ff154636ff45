import RasterAlgebra.Text.Quoted
import RasterAlgebra.Token
/-!
# Faults of a text

Where a text is no formula, and why. A `Fault` is a cause at a token; its `Diagnostic` is what people see:
a message, a span of the text, what could have stood there, and what was found.
-/

namespace RasterAlgebra

/-- A complaint about a span of a text. -/
structure Diagnostic where
  message : String
  start : Int
  stop : Int
  /-- What could have stood there. -/
  expected : List String
  /-- What stood there. -/
  found : Option String
  deriving DecidableEq, Repr

/-- A diagnostic on one line. -/
def Diagnostic.text (d : Diagnostic) : String :=
  let expected := if d.expected.isEmpty then "" else "; expected " ++ ", ".intercalate d.expected
  let found := match d.found with
    | some found => "; found " ++ found
    | none => ""
  d.message ++ " at span [" ++ toString d.start ++ ", " ++ toString d.stop ++ ")" ++ expected ++ found

/-- Why a text is no formula. -/
inductive Fault.Cause where
  /-- An expression is nested more deeply than the limit allows. -/
  | tooDeep (limit : Int)
  /-- A token of one certain kind should have stood there. -/
  | missing (kind : Token.Kind)
  /-- The character starts no token. -/
  | illegalCharacter (text : String)
  /-- No expression starts with a token of this kind. -/
  | noExpression (kind : Token.Kind)
  deriving DecidableEq, Repr

/-- A cause, at the token where it shows. -/
structure Fault where
  cause : Fault.Cause
  token : Token
  deriving DecidableEq, Repr

namespace Fault

/-- The kinds of token that an expression can start with. -/
def expressionStart : List Token.Kind :=
  [.ident, .number, .trueWord, .falseWord, .leftParen, .bang, .minus]

namespace Cause

/-- The message of a cause. -/
def message : Cause → String
  | tooDeep limit => "expression nested too deeply (limit " ++ toString limit ++ ")"
  | missing kind => "expected " ++ kind.name
  | illegalCharacter text => "illegal character " ++ Text.quoted text
  | noExpression kind => "no prefix parse rule for " ++ kind.name

/-- The kinds of token that could have stood there. -/
def expected : Cause → List Token.Kind
  | tooDeep _ => []
  | missing kind => [kind]
  | illegalCharacter _ => expressionStart
  | noExpression _ => expressionStart

end Cause

/-- How a message names a token that it found. -/
def foundText (t : Token) : String :=
  if t.kind = .eof then "EOF" else t.kind.name ++ "(" ++ t.text ++ ")"

/-- What people see of a fault. -/
def diagnostic (f : Fault) : Diagnostic where
  message := f.cause.message
  start := f.token.pos
  stop := f.token.stop
  expected := f.cause.expected.map Token.Kind.name
  found := some (foundText f.token)

/-- A fault on one line. -/
def text (f : Fault) : String := f.diagnostic.text

/-- Several faults on one line. -/
def textOfList (faults : List Fault) : String := "; ".intercalate (faults.map text)

end Fault

end RasterAlgebra
