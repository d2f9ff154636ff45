import RasterAlgebra.Decimal.Reader
/-!
# Units of time

Moments and spans of time are counted in a unit, or in a multiple of one: `[s]`, `[25ms]`. A unit may be
divided, if a smaller one counts the quotient exactly: `[s/10]` is `[100ms]`. `TimeUnit.ofText?` reads such
a unit.
-/

namespace RasterAlgebra.ArrayFile

/-- The whole number at the head of a text, with blanks and a sign in front of it, and the rest. -/
def takeInteger? (s : List Char) : Option (Int × List Char) :=
  let (negative, s) := Decimal.splitSign (s.dropWhile Decimal.isAsciiSpace)
  let digits := s.takeWhile Char.isDigit
  let n : Int := Decimal.natOfDigits digits
  if digits.isEmpty then none else some (if negative then -n else n, s.dropWhile Char.isDigit)

/-- The largest count that fits where counts are stored. -/
def maxCount : Nat := 2147483647

/-- What time is counted in. -/
structure TimeUnit where
  count : Nat
  /-- The name of the unit, which is empty if none is told. -/
  name : String
  deriving DecidableEq, Repr

namespace TimeUnit

/-- No unit. -/
def none : TimeUnit := ⟨1, ""⟩

/-- A unit as it is written behind a type. -/
def text (u : TimeUnit) : String :=
  if u.name = "" then ""
  else if u.count = 1 then "[" ++ u.name ++ "]"
  else "[" ++ Nat.repr u.count ++ u.name ++ "]"

/-- The names of the units from the second on, each a thousand times the next one. -/
def smallNames : List String := ["s", "ms", "us", "ns", "ps", "fs", "as"]

/-- The smaller units that a unit can be divided into, with how many of them it has. -/
def parts : String → List (Nat × String)
  | "Y" => [(12, "M"), (52, "W"), (365, "D")]
  | "M" => [(4, "W"), (30, "D"), (720, "h")]
  | "W" => [(7, "D"), (168, "h"), (10080, "m")]
  | "D" => [(24, "h"), (1440, "m"), (86400, "s")]
  | "h" => [(60, "m"), (3600, "s")]
  | "m" => [(60, "s"), (60000, "ms")]
  | name => [1000, 1000000].zip ((smallNames.dropWhile (· != name)).drop 1)

/-- The unit with a name. -/
def ofName? (name : String) : Option String :=
  if name = "generic" then some ""
  else if name = "μs" then some "us"
  else if (["Y", "M", "W", "D", "h", "m"] ++ smallNames).contains name then some name
  else Option.none

/-- A unit divided by a number. -/
def divide? (u : TimeUnit) (divisor : Int) : Option TimeUnit :=
  if divisor = 1 then some u
  else if divisor ≤ 0 ∨ u.name = "" then Option.none
  else ((parts u.name).find? fun (n, _) => n % divisor.toNat = 0).map fun (n, name) =>
    ⟨u.count * (n / divisor.toNat), name⟩

/-- A unit as it stands between brackets. -/
def ofContent? (s : List Char) : Option TimeUnit := do
  let (count, s) := (takeInteger? s).getD (1, s)
  if count < 0 ∨ maxCount < count then Option.none
  else
    let u : TimeUnit := ⟨count.toNat, ← ofName? (String.ofList (s.takeWhile (· != '/')))⟩
    match s.dropWhile (· != '/') with
    | [] => some u
    | _ :: s =>
      let (divisor, rest) ← takeInteger? s
      if rest.isEmpty then u.divide? divisor else Option.none

/-- A unit in brackets, or none. -/
def ofText? (s : List Char) : Option TimeUnit :=
  match s with
  | [] => some none
  | '[' :: rest =>
    if rest.dropWhile (· != ']') = [']'] then ofContent? (rest.takeWhile (· != ']')) else Option.none
  | _ => Option.none

end TimeUnit

end RasterAlgebra.ArrayFile
