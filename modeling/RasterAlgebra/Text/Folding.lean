/-!
# Comparing names without regard to letter case

Two names agree if their case foldings are equal. `foldToAscii` folds the characters whose folding
consists of ASCII letters and leaves the others, so it decides agreement with any ASCII name.
-/

namespace RasterAlgebra.Text

/-- The case folding of a character, where that is made of ASCII letters only. -/
def foldChar (c : Char) : List Char :=
  match c with
  | 'ß' | 'ẞ' => ['s', 's']
  | 'ſ' => ['s']
  | '\u212a' => ['k']
  | 'ﬀ' => ['f', 'f']
  | 'ﬁ' => ['f', 'i']
  | 'ﬂ' => ['f', 'l']
  | 'ﬃ' => ['f', 'f', 'i']
  | 'ﬄ' => ['f', 'f', 'l']
  | 'ﬅ' | 'ﬆ' => ['s', 't']
  | c => [c.toLower]

/-- A text with every character folded that folds to ASCII letters. -/
def foldToAscii (s : String) : String := String.ofList (s.toList.flatMap foldChar)

end RasterAlgebra.Text
