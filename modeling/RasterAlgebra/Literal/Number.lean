import RasterAlgebra.Decimal.Reader
import RasterAlgebra.Literal
import RasterAlgebra.Text.Radix
/-!
# Numbers in literals

A number is written without its sign: a whole number to base ten, or to base sixteen, eight or two with a
letter that tells the base; or a real number with a point, a power of ten or both. A `j` makes it
imaginary. Single underscores may stand between digits. `readNumber?` reads the number at the head of a
text and fails if a letter or a digit stands right behind.
-/

namespace RasterAlgebra.Literal

/-- Whether a character can be part of a word. All characters that are not ASCII can. -/
def isWordChar (c : Char) : Bool := c.isAlphanum || c == '_' || 0x80 ≤ c.toNat

/-- The digits at the head of a text, without underscores between them, and the rest. There is none if no
digit follows an underscore. -/
def takeDigits? (base : Nat) : List Char → Option (List Char × List Char)
  | [] => some ([], [])
  | c :: rest =>
    if Text.isDigit base c then
      (takeDigits? base rest).map fun (digits, rest) => (c :: digits, rest)
    else if c != '_' then some ([], c :: rest)
    else if rest.head?.any (Text.isDigit base) then takeDigits? base rest
    else none

/-- The same where no underscore can stand at the head. -/
def takeFraction? (s : List Char) : Option (List Char × List Char) :=
  if s.head?.any (Text.isDigit 10) then takeDigits? 10 s else some ([], s)

/-- The base that the second character of a number tells, the first one being a zero. -/
def base? : Char → Option Nat
  | 'x' | 'X' => some 16
  | 'o' | 'O' => some 8
  | 'b' | 'B' => some 2
  | _ => none

/-- The power of ten at the head of a text, and the rest. -/
def takePower? : List Char → Option (Option Int × List Char)
  | [] => some (none, [])
  | c :: rest =>
    if c == 'e' || c == 'E' then do
      let (negative, digits) := Decimal.splitSign rest
      let (digits, rest) ← takeFraction? digits
      if digits.isEmpty then none
      else
        let n : Int := Decimal.natOfDigits digits
        return (some (if negative then -n else n), rest)
    else some (none, c :: rest)

/-- A whole number from its decimal digits. Only zero may start with a zero. -/
def ofDigits? (digits : List Char) : Option Literal :=
  if digits.head? = some '0' then if digits.all (· == '0') then some (whole 0) else none
  else if Decimal.maxIntDigits < digits.length then none
  else some (whole (Decimal.natOfDigits digits))

/-- A number to base ten. -/
def readDecimal? (s : List Char) : Option (Literal × List Char) := do
  let (digits, rest) ← takeFraction? s
  let (fraction, rest) ← match rest with
    | '.' :: rest => do
      let (fraction, rest) ← takeFraction? rest
      pure (some fraction, rest)
    | _ => pure (none, rest)
  let (power, rest) ← takePower? rest
  let x := Decimal.ofParts digits (fraction.getD []) (power.getD 0)
  match rest with
  | 'j' :: rest | 'J' :: rest => return (complex 0 x, rest)
  | _ =>
    if fraction.isSome || power.isSome then return (real x, rest)
    else return (← ofDigits? digits, rest)

/-- The number at the head of a text, and the rest. -/
def readNumber? (s : List Char) : Option (Literal × List Char) := do
  let (n, rest) ← match s with
    | '0' :: letter :: rest =>
      match base? letter with
      | some base => do
        let (digits, rest) ← takeDigits? base rest
        if digits.isEmpty then none
        else pure (whole ((Text.number? base digits).getD 0), rest)
      | none => readDecimal? s
    | _ => readDecimal? s
  if rest.head?.any isWordChar then none else some (n, rest)

end RasterAlgebra.Literal
