/-!
# Tokens

The pieces that a formula text is cut into. A token keeps its own text and the half-open span
`[pos, stop)` that it covers, counted in characters from the start of the text.
-/

namespace RasterAlgebra

/-- What a token is, apart from its text. -/
inductive Token.Kind where
  /-- A character that starts no lexeme. -/
  | illegal
  /-- The end of the text. -/
  | eof
  | ident
  | number
  | plus
  | minus
  | asterisk
  | slash
  | bang
  | less
  | greater
  | equal
  | notEqual
  | hash
  | semicolon
  | leftParen
  | rightParen
  | trueWord
  | falseWord
  deriving DecidableEq, Repr

namespace Token.Kind

/-- The name under which a kind appears in messages. -/
def name : Kind → String
  | illegal => "ILLEGAL"
  | eof => "EOF"
  | ident => "IDENT"
  | number => "NUMBER"
  | plus => "PLUS"
  | minus => "MINUS"
  | asterisk => "ASTERISK"
  | slash => "SLASH"
  | bang => "BANG"
  | less => "LT"
  | greater => "GT"
  | equal => "EQ"
  | notEqual => "NOT_EQ"
  | hash => "HASH"
  | semicolon => "SEMICOLON"
  | leftParen => "LPAREN"
  | rightParen => "RPAREN"
  | trueWord => "TRUE"
  | falseWord => "FALSE"

end Token.Kind

/-- A lexeme with its kind and its span. -/
structure Token where
  kind : Token.Kind
  text : String
  /-- How many characters stand before the token. -/
  pos : Nat
  /-- The position just behind the token. -/
  stop : Nat
  deriving DecidableEq, Repr

/-- The token that ends a text of `n` characters: empty, and placed behind the last of them. -/
def Token.endOfText (n : Nat) : Token := ⟨.eof, "", n, n⟩

end RasterAlgebra
