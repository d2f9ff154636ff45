/-!
# Blanks around a text

The white space of all scripts (Unicode, bidirectional classes `WS B S` and category `Zs`), and
`strip`, which takes it off both ends of a text.
-/

namespace RasterAlgebra.Text

/-- Whether a character is white space in any script, the separators U+001C to U+001F included. -/
def isSpace (c : Char) : Bool :=
  let n := c.toNat
  (0x9 ≤ n && n ≤ 0xd) || (0x1c ≤ n && n ≤ 0x20) || n == 0x85 || n == 0xa0 || n == 0x1680 ||
    (0x2000 ≤ n && n ≤ 0x200a) || n == 0x2028 || n == 0x2029 || n == 0x202f || n == 0x205f ||
    n == 0x3000

/-- A list without the elements at its two ends for which `p` holds. -/
def trimWith (p : Char → Bool) (s : List Char) : List Char :=
  ((s.dropWhile p).reverse.dropWhile p).reverse

/-- A text without the white space at its two ends. -/
def strip (s : String) : String := String.ofList (trimWith isSpace s.toList)

end RasterAlgebra.Text
