import RasterAlgebra.Literal.Number
import RasterAlgebra.Literal.Quotation
/-!
# Lexemes of literals

The text of a literal is cut into numbers, quotations, words and marks. Blanks and comments between them
say nothing, and neither do line ends within brackets or behind a backslash. Outside of brackets a line
that holds anything starts at its first column. `lexemes?` cuts a text.
-/

namespace RasterAlgebra.Literal

/-- A piece of the text of a literal. -/
inductive Lexeme where
  | number (n : Literal)
  | quotation (q : Quotation)
  | word (s : String)
  | ellipsis
  /-- A bracket, a comma, a colon or a sign. -/
  | mark (c : Char)
  /-- The end of a line outside of brackets. -/
  | lineEnd

/-- The marks that open a bracket. -/
def isOpening (c : Char) : Bool := c == '(' || c == '[' || c == '\x7b'

/-- The marks that close a bracket. -/
def isClosing (c : Char) : Bool := c == ')' || c == ']' || c == '\x7d'

/-- The characters between lexemes. -/
def isBlank (c : Char) : Bool := c == ' ' || c == '\t' || c == '\x0c'

/-- The most brackets that can be open at once. -/
def maxDepth : Nat := 200

/-- The lexeme at the head of a text without blanks there, and the rest. -/
def readLexeme? (s : List Char) : Option (Lexeme × List Char) :=
  match readQuotation? s with
  | some found => found.map fun (q, rest) => (.quotation q, rest)
  | none =>
    match s with
    | [] => none
    | c :: rest =>
      if c.isDigit ∨ c = '.' ∧ rest.head?.any Char.isDigit then
        (readNumber? s).map fun (n, rest) => (.number n, rest)
      else if isWordChar c then
        some (.word (String.ofList (s.takeWhile isWordChar)), s.dropWhile isWordChar)
      else if s.take 3 = ['.', '.', '.'] then some (.ellipsis, s.drop 3)
      else if isOpening c || isClosing c || [',', ':', '+', '-'].contains c then
        some (.mark c, rest)
      else none

/-- How many brackets are open behind a lexeme, given how many are open before it. -/
def depthBehind? (depth : Nat) : Lexeme → Option Nat
  | .mark c =>
    if isOpening c then if depth < maxDepth then some (depth + 1) else none
    else if isClosing c then if depth = 0 then none else some (depth - 1)
    else some depth
  | _ => some depth

/-- The column in which a line starts, and the line from there. Where a backslash joins lines, the first
column but zero at which one of them stops counts. -/
def takeIndentation? (column kept : Nat) : List Char → Option (Nat × List Char)
  | ' ' :: rest => takeIndentation? (column + 1) kept rest
  | '\t' :: rest => takeIndentation? ((column / 8 + 1) * 8) kept rest
  | '\x0c' :: rest => takeIndentation? 0 kept rest
  | '\\' :: '\n' :: rest =>
    if rest.isEmpty then none else takeIndentation? column (if kept = 0 then column else kept) rest
  | '\\' :: _ => none
  | rest => some (if kept = 0 then column else kept, rest)

/-- A text from the end of the line on that it starts with. -/
def skipComment (s : List Char) : List Char :=
  if s.head? = some '#' then s.dropWhile (· != '\n') else s

/-- The lexemes of a text, given how many brackets are open before it and whether it starts a line. Every
lexeme and every line uses up characters, so `fuel` can be their number. -/
def lexemesWithin? (fuel depth : Nat) (lineStart : Bool) (s : List Char) : Option (List Lexeme) :=
  match fuel with
  | 0 => if s.isEmpty && depth == 0 then some [] else none
  | fuel + 1 =>
    if lineStart then do
      let (column, s) ← takeIndentation? 0 0 s
      match skipComment s with
      | '\n' :: rest => lexemesWithin? fuel depth true rest
      | rest =>
        if rest.length < s.length then some []
        else if column ≠ 0 then none
        else lexemesWithin? fuel depth false rest
    else
      let s := s.dropWhile isBlank
      match skipComment s with
      | [] => if depth = 0 then some [] else none
      | '\n' :: rest =>
        if depth = 0 then (lexemesWithin? fuel depth true rest).map (.lineEnd :: ·)
        else lexemesWithin? fuel depth false rest
      | '\\' :: '\n' :: rest => if rest.isEmpty then none else lexemesWithin? fuel depth false rest
      | s => do
        let (lexeme, rest) ← readLexeme? s
        let depth ← depthBehind? depth lexeme
        return lexeme :: (← lexemesWithin? fuel depth false rest)

/-- The lexemes of a text. -/
def lexemes? (s : List Char) : Option (List Lexeme) := lexemesWithin? (2 * s.length + 1) 0 true s

end RasterAlgebra.Literal
