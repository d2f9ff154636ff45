import RasterAlgebra.Text.LetterCase.Tables
/-!
# Letter case

Upper and lower case of whole texts, for every script: `toLower` and `toUpper`. One character may
become several, and a capital sigma that ends a word has a small form of its own.
-/

namespace RasterAlgebra.Text

/-- Whether a code point lies in one of the closed intervals. -/
def inRanges (ranges : List (Nat × Nat)) (code : Nat) : Bool :=
  ranges.any fun (first, last) => first ≤ code && code ≤ last

/-- The first run that moves a code point decides; other code points stay. -/
def mapRuns (runs : List CaseRun) (code : Nat) : Nat :=
  (runs.findSome? (·.map? code)).getD code

/-- The case of a letter is looked up through these. -/
def isCaseIgnorable (c : Char) : Bool := inRanges caseIgnorableRanges c.toNat

/-- Letters with an upper, a lower or a title case. -/
def isCased (c : Char) : Bool := inRanges casedRanges c.toNat

/-- Whether the nearest character that is not ignorable is cased. -/
def meetsCased (s : List Char) : Bool :=
  ((s.dropWhile isCaseIgnorable).head?.map isCased).getD false

/-- The lower-case form of a character, given the characters before it, nearest first, and those behind
it. A sigma behind a cased character and not in front of one ends its word. -/
def lowerChar (before : List Char) (c : Char) (behind : List Char) : List Char :=
  if c == 'Σ' then
    if meetsCased before && !meetsCased behind then ['ς'] else ['σ']
  else if c == 'İ' then ['i', '\u0307']
  else [Char.ofNat (mapRuns lowerRuns c.toNat)]

/-- The lower-case form of a text that stands behind `before`, nearest character first. -/
def lowerFrom (before : List Char) : List Char → List Char
  | [] => []
  | c :: rest => lowerChar before c rest ++ lowerFrom (c :: before) rest

/-- A text in lower case. -/
def toLower (s : String) : String := String.ofList (lowerFrom [] s.toList)

/-- The upper-case form of a character. -/
def upperChar (c : Char) : List Char :=
  match upperExpansions.lookup c.toNat with
  | some codes => codes.map Char.ofNat
  | none => [Char.ofNat (mapRuns upperRuns c.toNat)]

/-- A text in upper case. -/
def toUpper (s : String) : String := String.ofList (s.toList.flatMap upperChar)

end RasterAlgebra.Text
