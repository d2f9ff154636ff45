import RasterAlgebra.Decimal.Shortest
/-!
# Numbers as text

Three ways to write a binary64 number: `fixed` with a given count of decimal places, `general` with six
significant digits, and `exact` with the fewest digits that read back. `Layout` holds what the last
two decide: which exponents are written by position, and whether a whole number keeps its point.
-/

namespace RasterAlgebra.Decimal

open Float.Model (UnpackedFloat)

/-- When digits are written by position, and how a whole number then ends. -/
structure Layout where
  /-- The least exponent of the first digit that is written by position. -/
  least : Int
  /-- The first exponent that is too large for it. -/
  limit : Int
  /-- What stands behind a whole number. -/
  wholeEnd : String

/-- The fewest digits that read back, by position from `10 ^ -4` to below `10 ^ 16`. -/
def Layout.exact : Layout := ⟨-4, 16, ".0"⟩

/-- Six significant digits, by position from `10 ^ -4` to below `10 ^ 6`. -/
def Layout.general : Layout := ⟨-4, 6, ""⟩

/-- The texts of the infinite numbers and of what is no number, and the sign of all others. -/
def signText : UnpackedFloat.Sign → String
  | .negative => "-"
  | .positive => ""

/-- Digits by position, with the point behind the digit of exponent zero. -/
def Digits.positional (wholeEnd : String) (d : Digits) : String :=
  let n := d.digits.length
  if d.exponent < 0 then
    String.ofList ('0' :: '.' :: List.replicate ((-d.exponent).toNat - 1) '0' ++ d.digits)
  else
    let whole := d.exponent.toNat + 1
    if n ≤ whole then
      String.ofList (d.digits ++ List.replicate (whole - n) '0') ++ wholeEnd
    else String.ofList (d.digits.take whole ++ '.' :: d.digits.drop whole)

/-- Digits with one of them before the point, and an exponent of at least two digits. -/
def Digits.scientific (d : Digits) : String :=
  let mantissa := match d.digits with
    | [] => ['0']
    | [only] => [only]
    | first :: rest => first :: '.' :: rest
  let power := Nat.toDigits 10 d.exponent.natAbs
  let power := if power.length < 2 then '0' :: power else power
  let sign := if d.exponent < 0 then '-' else '+'
  String.ofList (mantissa ++ 'e' :: sign :: power)

/-- Digits without needless zeros, in the notation that their exponent asks for. -/
def Layout.render (layout : Layout) (d : Digits) : String :=
  if layout.least ≤ d.exponent && d.exponent < layout.limit then d.positional layout.wholeEnd
  else d.scientific

/-- A number in a layout, with the digits that `digits` finds for `m * 2 ^ e`. -/
def renderWith (layout : Layout) (digits : Nat → Int → Digits) (x : Float) : String :=
  match x.toModel.unpack with
  | .notANumber => "nan"
  | .infinity sign => signText sign ++ "inf"
  | .zero sign => signText sign ++ "0" ++ layout.wholeEnd
  | .finite sign m e _ => signText sign ++ layout.render (digits m e)

/-- The shortest text that reads back as the number. -/
def exact (x : Float) : String := renderWith .exact shortest x

/-- The number with six significant digits. -/
def general (x : Float) : String :=
  renderWith .general (fun m e => (Digits.significant (.ofBinary m e) 6).trimZeros) x

/-- A count of units of `10 ^ -places`, with the point put in. -/
def withPlaces (places n : Nat) : String :=
  let digits := Nat.toDigits 10 n
  let digits := List.replicate (places + 1 - digits.length) '0' ++ digits
  let whole := digits.length - places
  String.ofList (digits.take whole ++ '.' :: digits.drop whole)

/-- The number with `places` decimal places, rounded from its exact value. -/
def fixed (places : Nat) (x : Float) : String :=
  match x.toModel.unpack with
  | .notANumber => "nan"
  | .infinity sign => signText sign ++ "inf"
  | .zero sign => signText sign ++ withPlaces places 0
  | .finite sign m e _ =>
    signText sign ++ withPlaces places ((Magnitude.ofBinary m e).roundTo places)

/-- The whole number that a float is, if it is one. -/
def whole? (x : Float) : Option Int :=
  match x.toModel.unpack with
  | .zero _ => some 0
  | .finite sign m e _ =>
    let y := Magnitude.ofBinary m e
    if y.num % y.den = 0 then some (sign.apply (y.num / y.den : Nat)) else none
  | _ => none

end RasterAlgebra.Decimal
