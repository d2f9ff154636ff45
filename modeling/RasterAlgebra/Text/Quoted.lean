import RasterAlgebra.Text.Printable
/-!
# Quoted text

How messages show a text that came from outside: in single quotes, or in double quotes if it holds a
single quote and no double one. The quote in use and the backslash are escaped, and so is every
character that is not printable.
-/

namespace RasterAlgebra.Text

/-- The last `width` hexadecimal digits of `n`, in lower case. -/
def hexDigits (width n : Nat) : List Char :=
  ((List.range width).map fun i => Nat.digitChar (n / Nat.pow 16 i % 16)).reverse

/-- A code point in the shortest of three forms. -/
def escapeCode (n : Nat) : List Char :=
  if n < 0x100 then '\\' :: 'x' :: hexDigits 2 n
  else if n < 0x10000 then '\\' :: 'u' :: hexDigits 4 n
  else '\\' :: 'U' :: hexDigits 8 n

/-- How one character is written between quotes, where `shown` says which characters stand for
themselves. -/
def escapeChar (shown : Char → Bool) (quote c : Char) : List Char :=
  if c == quote || c == '\\' then ['\\', c]
  else if c == '\n' then ['\\', 'n']
  else if c == '\r' then ['\\', 'r']
  else if c == '\t' then ['\\', 't']
  else if shown c then [c]
  else escapeCode c.toNat

/-- The quote that saves escapes: double only around a text with single quotes and no double ones. -/
def quoteFor (s : List Char) : Char :=
  if s.contains '\'' && !s.contains '"' then '"' else '\''

/-- A text in quotes, with the characters for which `shown` fails escaped. -/
def quotedWith (shown : Char → Bool) (s : String) : String :=
  let chars := s.toList
  let quote := quoteFor chars
  String.ofList (quote :: chars.flatMap (escapeChar shown quote) ++ [quote])

/-- The character of a code point. Surrogates have none. -/
def char? (code : Nat) : Option Char :=
  if h : code.isValidChar then some (Char.ofNatAux code h) else none

/-- Code points in quotes; one without a character is escaped. -/
def quotedCodes (codes : List Nat) : String :=
  let quote := quoteFor (codes.filterMap char?)
  let shown := codes.flatMap fun code => match char? code with
    | some c => escapeChar isPrintable quote c
    | none => escapeCode code
  String.ofList (quote :: shown ++ [quote])

/-- A text in quotes, printable characters of every script shown as they are. -/
def quoted (s : String) : String := quotedWith isPrintable s

/-- A text in quotes, written with ASCII characters only. -/
def quotedAscii (s : String) : String :=
  quotedWith (fun c => c.toNat < 0x80 && isPrintable c) s

end RasterAlgebra.Text
