import RasterAlgebra.Decimal.Magnitude
/-!
# The fewest digits that read back

Between a binary number and its two neighbours lie the numbers that round to it. `shortest` looks on
the grids of 1, 2, … 17 decimal digits for one of them and takes the first grid that has one. On that
grid the nearer of two wins, and of two that are equally near the even one.
-/

namespace RasterAlgebra.Decimal

/-- The numbers that round to `m * 2 ^ e`, with everything in units of `2 ^ (e - 2)`: the number itself
is `4 * m`. The lower bound is nearer where the spacing of the binary numbers changes. The bounds
themselves round to the number exactly if `m` is even. -/
structure RoundingRange where
  value : Magnitude
  lower : Magnitude
  upper : Magnitude
  closed : Bool

/-- The numbers that round to the binary64 number `m * 2 ^ e`. -/
def RoundingRange.ofBinary64 (m : Nat) (e : Int) : RoundingRange :=
  let narrow := m == Nat.pow 2 52 && decide (-1074 < e)
  { value := .ofBinary (4 * m) (e - 2)
    lower := .ofBinary (if narrow then 4 * m - 1 else 4 * m - 2) (e - 2)
    upper := .ofBinary (4 * m + 2) (e - 2)
    closed := m % 2 == 0 }

namespace RoundingRange

/-- Whether `n` times `10 ^ (-k)` lies in the range. -/
def holds (r : RoundingRange) (k : Int) (n : Nat) : Bool :=
  let lower := r.lower.scale k
  let upper := r.upper.scale k
  if r.closed then lower.num ≤ n * lower.den && n * upper.den ≤ upper.num
  else lower.num < n * lower.den && n * upper.den < upper.num

/-- The number of the grid `10 ^ (-k)` in the range that is nearest to the value, if there is one. -/
def nearest? (r : RoundingRange) (k : Int) : Option Nat :=
  let v := r.value.scale k
  let below := v.num / v.den
  let above := below + 1
  match r.holds k below, r.holds k above with
  | true, true => some (roundHalfEven v.num v.den)
  | true, false => some below
  | false, true => some above
  | false, false => none

end RoundingRange

/-- The first of the grids with `count`, `count + 1`, … significant digits that has a number in the
range; with no grid left to try, 17 digits. -/
def shortestFrom (r : RoundingRange) (first : Int) : Nat → Nat → Digits
  | 0, _ => .significant r.value 17
  | tries + 1, count =>
    let unit := first + 1 - count
    match r.nearest? (-unit) with
    | some n => .ofScaled n unit
    | none => shortestFrom r first tries (count + 1)

/-- The fewest digits that read back as the binary64 number `m * 2 ^ e`. -/
def shortest (m : Nat) (e : Int) : Digits :=
  let r := RoundingRange.ofBinary64 m e
  (shortestFrom r r.value.exponent 17 1).trimZeros

end RasterAlgebra.Decimal
