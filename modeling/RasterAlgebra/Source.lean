import RasterAlgebra.Grid
/-!
# Sources of bands

A source answers the name of a band with a grid, or says why it cannot. A `Shelf` is a source that holds
its grids itself.
-/

namespace RasterAlgebra

/-- What is known about a band that could not be had. -/
inductive SourceError.Reason where
  | unspecified
  /-- There is no band of this name. -/
  | notFound
  /-- The band is there but could not be read. -/
  | unreadable
  deriving DecidableEq, Repr

/-- A band that could not be had. -/
structure SourceError where
  reason : SourceError.Reason
  band : String
  detail : Option String
  deriving DecidableEq, Repr

/-- The text of the error: the band, and the detail if there is one to tell. -/
def SourceError.text (e : SourceError) : String :=
  let band := "band " ++ Text.quoted e.band
  match e.detail with
  | some detail => if detail = "" then band else band ++ ": " ++ detail
  | none => band

/-- Where the grids of bands come from. -/
abbrev Source : Type := String → Except SourceError Grid

/-- What a shelf holds under a name: a grid, or one that cannot be read. -/
inductive Shelf.Entry where
  | grid (g : Grid)
  | unreadable (detail : Option String)

/-- Bands kept by name. The entry that was put last counts. -/
abbrev Shelf : Type := List (String × Shelf.Entry)

namespace Shelf

/-- Puts an entry under a name, in place of the one that was there. -/
def put (s : Shelf) (band : String) (entry : Entry) : Shelf :=
  (band, entry) :: s.filter (·.1 != band)

/-- Takes the entry of a name away, if there is one. -/
def remove (s : Shelf) (band : String) : Shelf := s.filter (·.1 != band)

/-- A shelf as a source. -/
def source (s : Shelf) : Source := fun band =>
  match s.lookup band with
  | some (.grid g) => .ok g
  | some (.unreadable detail) => .error ⟨.unreadable, band, detail⟩
  | none => .error ⟨.notFound, band, none⟩

end Shelf

end RasterAlgebra
