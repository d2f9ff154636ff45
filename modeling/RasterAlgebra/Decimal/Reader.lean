import RasterAlgebra.Text.Blank
import RasterAlgebra.Text.DecimalDigit
/-!
# Numbers from text

`ofLexeme` reads the number lexemes of formulas. `readFloat?` and `readInt?` read numbers that a user
gives as options or settings: with blanks around them, a sign, digits of any script, and single
underscores between digits. All are rounded once, from the exact decimal value.
-/

namespace RasterAlgebra.Decimal

/-- The natural that ASCII digits write. -/
def natOfDigits (digits : List Char) : Nat :=
  digits.foldl (fun n c => 10 * n + (c.toNat - '0'.toNat)) 0

/-- The binary64 number nearest to `n * 10 ^ e`. -/
def ofDecimal (n : Nat) (e : Int) : Float :=
  if 0 ≤ e then .ofScientific n false e.toNat else .ofScientific n true (-e).toNat

/-- The number of the digits `whole`, a point and the digits `fraction`, times `10 ^ e`. -/
def ofParts (whole fraction : List Char) (e : Int) : Float :=
  ofDecimal (natOfDigits (whole ++ fraction)) (e - fraction.length)

/-- The number of a lexeme: digits with at most one point among or behind them. -/
def ofLexeme (lexeme : List Char) : Float :=
  ofParts (lexeme.takeWhile Char.isDigit) ((lexeme.dropWhile Char.isDigit).drop 1) 0

/-! ## Numbers given by a user -/

/-- The blanks that may stand around a number, once those of other scripts have become plain ones. -/
def isAsciiSpace (c : Char) : Bool :=
  c == ' ' || (0x9 ≤ c.toNat && c.toNat ≤ 0xd)

/-- A character as plain ASCII: digits and blanks of other scripts by what they mean, and a question
mark, which stands in no number, for all else. -/
def plainChar (c : Char) : Char :=
  if c.toNat < 0x80 then c
  else if Text.isSpace c then ' '
  else match Text.decimalDigit? c with
    | some d => Nat.digitChar d
    | none => '?'

/-- The characters of a number, without underscores; `none` if one does not stand between digits. -/
def dropUnderscores? (previous : Char) : List Char → Option (List Char)
  | [] => if previous == '_' then none else some []
  | c :: rest =>
    if c == '_' then
      if previous.isDigit then dropUnderscores? c rest else none
    else if previous == '_' && !c.isDigit then none
    else (dropUnderscores? c rest).map (c :: ·)

/-- What is left of a number's text for its grammar. -/
def plainNumber? (s : String) : Option (List Char) :=
  dropUnderscores? ' ' (Text.trimWith isAsciiSpace (s.toList.map plainChar))

/-- A sign, which may be missing, and what follows it. -/
def splitSign : List Char → Bool × List Char
  | '-' :: rest => (true, rest)
  | '+' :: rest => (false, rest)
  | s => (false, s)

/-- Digits that are all of the text, one at least. -/
def allDigits? (s : List Char) : Option (List Char) :=
  if !s.isEmpty && s.all Char.isDigit then some s else none

/-- The power of ten behind a number: nothing, or `e` with a whole number. -/
def exponent? : List Char → Option Int
  | [] => some 0
  | c :: rest =>
    if c == 'e' || c == 'E' then
      let (negative, digits) := splitSign rest
      (allDigits? digits).map fun digits =>
        if negative then -(natOfDigits digits : Int) else natOfDigits digits
    else none

/-- Digits, a point, digits and a power of ten, with a digit in front of or behind the point. -/
def unsigned? (s : List Char) : Option Float :=
  let whole := s.takeWhile Char.isDigit
  let rest := s.dropWhile Char.isDigit
  let (fraction, power) := match rest with
    | '.' :: rest => (rest.takeWhile Char.isDigit, rest.dropWhile Char.isDigit)
    | _ => ([], rest)
  if whole.isEmpty && fraction.isEmpty then none
  else (exponent? power).map (ofParts whole fraction ·)

/-- The words for what is not finite, in any letter case. -/
def named? (s : List Char) : Option Float :=
  match String.ofList (s.map Char.toLower) with
  | "inf" | "infinity" => some (1.0 / 0.0)
  | "nan" => some (0.0 / 0.0)
  | _ => none

/-- The binary64 number that a text writes. -/
def readFloat? (s : String) : Option Float := do
  let (negative, rest) := splitSign (← plainNumber? s)
  let x ← named? rest <|> unsigned? rest
  return if negative then -x else x

/-- The most digits that a whole number may have. -/
def maxIntDigits : Nat := 4300

/-- The whole number that a text writes. -/
def readInt? (s : String) : Option Int := do
  let (negative, rest) := splitSign (← plainNumber? s)
  let digits ← allDigits? rest
  if maxIntDigits < digits.length then none
  else return if negative then -(natOfDigits digits : Int) else natOfDigits digits

end RasterAlgebra.Decimal
