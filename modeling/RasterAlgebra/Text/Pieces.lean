/-!
# Pieces of a text

A text is cut at separators. `pieces` gives what stands between them.
-/

namespace RasterAlgebra.Text

/-- The pieces of a text between the characters for which `separates` holds, one more than there are such
characters. -/
def pieces (separates : Char → Bool) (s : List Char) : List (List Char) :=
  s.foldr
    (fun c found =>
      if separates c then [] :: found
      else match found with
        | [] => [[c]]
        | piece :: others => (c :: piece) :: others)
    [[]]

end RasterAlgebra.Text
