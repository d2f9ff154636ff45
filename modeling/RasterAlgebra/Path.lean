import RasterAlgebra.Text.Pieces
/-!
# Paths

A path is a root, which may be missing, and names. Empty names and single dots say nothing and are left
out; double dots stay. Two slashes at the front, neither more nor fewer, are a root of their own.
-/

namespace RasterAlgebra

/-- The name of a file or a directory. -/
structure Path where
  /-- The slashes that a path from the root starts with. -/
  root : String
  /-- The names from the root, or from where one is. -/
  names : List String
  deriving DecidableEq, Repr

namespace Path

/-- Whether a piece of a text is a name. -/
def isName (piece : List Char) : Bool := !piece.isEmpty && piece != ['.']

/-- The root that a text starts with. -/
def rootOf (s : List Char) : String :=
  match (s.takeWhile (· == '/')).length with
  | 0 => ""
  | 2 => "//"
  | _ => "/"

/-- A path from its text. -/
def ofText (text : String) : Path :=
  let chars := text.toList
  ⟨rootOf chars, ((Text.pieces (· == '/') chars).filter isName).map String.ofList⟩

/-- A path as text; the place where one is, as a single dot. -/
def text (p : Path) : String :=
  if p.root = "" ∧ p.names = [] then "." else p.root ++ "/".intercalate p.names

/-- A path seen from a directory. A path from the root stays as it is. -/
def join (directory p : Path) : Path :=
  if p.root = "" then ⟨directory.root, directory.names ++ p.names⟩ else p

/-- The one name behind a directory. -/
def child (directory : Path) (name : String) : Path :=
  ⟨directory.root, directory.names ++ [name]⟩

end Path

end RasterAlgebra
