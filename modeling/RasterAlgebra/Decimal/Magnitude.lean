/-!
# Exact positive numbers and their decimal places

A finite binary number is a fraction. `Magnitude` holds such a fraction without its sign, `exponent`
is the place of its first decimal digit, and `roundTo` is its multiple of a power of ten, rounded to the
nearest whole number with halves going to the even neighbour.
-/

namespace RasterAlgebra.Decimal

/-- The quotient of two naturals, rounded to the nearest natural; a half goes to the even neighbour. -/
def roundHalfEven (num den : Nat) : Nat :=
  let q := num / den
  let r := num % den
  if 2 * r < den then q else if den < 2 * r then q + 1 else q + q % 2

/-- A fraction of naturals. -/
structure Magnitude where
  num : Nat
  den : Nat
  deriving DecidableEq, Repr

namespace Magnitude

/-- The number `m * 2 ^ e`. -/
def ofBinary (m : Nat) (e : Int) : Magnitude :=
  if 0 ≤ e then ⟨m * Nat.pow 2 e.toNat, 1⟩ else ⟨m, Nat.pow 2 (-e).toNat⟩

/-- The number times `10 ^ k`. -/
def scale (x : Magnitude) (k : Int) : Magnitude :=
  if 0 ≤ k then ⟨x.num * Nat.pow 10 k.toNat, x.den⟩ else ⟨x.num, x.den * Nat.pow 10 (-k).toNat⟩

/-- The number times `10 ^ places`, rounded to a whole number. -/
def roundTo (x : Magnitude) (places : Int) : Nat :=
  let y := x.scale places
  roundHalfEven y.num y.den

/-- The count of decimal digits of a natural, one for zero. -/
def digitCount (n : Nat) : Nat := (Nat.toDigits 10 n).length

/-- The exponent of the first decimal digit: the `k` with `10 ^ k ≤ x < 10 ^ (k + 1)`. -/
def exponent (x : Magnitude) : Int :=
  if x.den ≤ x.num then (digitCount (x.num / x.den) : Int) - 1
  else
    let below := digitCount (x.den / x.num) - 1
    if x.den = x.num * Nat.pow 10 below then -(below : Int) else -(below : Int) - 1

end Magnitude

/-- Decimal digits with the exponent of the first of them. -/
structure Digits where
  digits : List Char
  exponent : Int
  deriving DecidableEq, Repr

namespace Digits

/-- The digits without the zeros at their end, one digit at least. -/
def trimZeros (d : Digits) : Digits :=
  match (d.digits.reverse.dropWhile (· == '0')).reverse with
  | [] => ⟨['0'], d.exponent⟩
  | digits => ⟨digits, d.exponent⟩

/-- The digits of `n`, given that `n` counts units of `10 ^ unit`. -/
def ofScaled (n : Nat) (unit : Int) : Digits :=
  let digits := Nat.toDigits 10 n
  ⟨digits, unit + digits.length - 1⟩

/-- A number rounded to `count` significant digits. -/
def significant (x : Magnitude) (count : Nat) : Digits :=
  let unit := x.exponent + 1 - count
  ofScaled (x.roundTo (-unit)) unit

end Digits

end RasterAlgebra.Decimal
