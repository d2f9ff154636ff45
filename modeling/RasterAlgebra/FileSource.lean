import RasterAlgebra.ArrayFile
import RasterAlgebra.Evaluation.Run
import RasterAlgebra.FileReader
/-!
# Bands in files

A source that reads every band from an array file of its own. Where the file of a band is follows from a
template for file names, unless the band has a path of its own; the type of its cells follows from the
type of the stored elements, unless the band has a cell type of its own.

A band that cannot be had is a failure of the formula, as with any other source. Some errors are worse and
end the run without an outcome: `FileSource.Error.endsRun` tells which ones.
-/

namespace RasterAlgebra

/-- Where the bands are, and what their grids are like. Of two entries for one band the first one counts. -/
structure FileSource where
  /-- The directory of the files. -/
  directory : Path
  /-- The template for the names of the files. -/
  template : String
  cellTypes : List (String × CellType)
  noData : Scalar
  paths : List (String × Path)

/-- Why a band cannot be read from its file. -/
inductive FileSource.Error where
  /-- The template gives no name of a file. -/
  | template (fault : Template.Fault)
  | noFile (path : Path)
  /-- The path may not be looked up. -/
  | forbidden (path : Path)
  | longPath (path : Path)
  /-- There is a file, but it cannot be opened. -/
  | unopened (path : Path)
  | damaged (error : ArrayFile.Error)
  /-- The elements are no samples. -/
  | noSamples (descriptor : ArrayFile.Descriptor)
  /-- The array is empty or has not two dimensions. -/
  | noMatrix (shape : List Nat)
  /-- The samples make no grid. -/
  | malformed (error : Grid.Error)

/-- The text of an error. -/
def FileSource.Error.message : FileSource.Error → String
  | template fault => fault.message
  | noFile path => "no file at " ++ path.text
  | forbidden path => "the path may not be looked up: " ++ path.text
  | longPath path => "the path is too long: " ++ path.text
  | unopened path => "the file cannot be opened: " ++ path.text
  | damaged error => error.message
  | noSamples descriptor => "unsupported sample dtype " ++ descriptor.text
  | noMatrix shape => "expected a non-empty 2-D array, got shape " ++ shapeText shape
  | malformed error => error.message

/-- What is known about the band: nothing was found, or what was found cannot be read. -/
def FileSource.Error.reason : FileSource.Error → SourceError.Reason
  | noFile _ => .notFound
  | template _ | forbidden _ | longPath _ | malformed _ => .unspecified
  | _ => .unreadable

/-- Whether an error ends the run in which a band is asked for. -/
def FileSource.Error.endsRun : FileSource.Error → Bool
  | template _ | forbidden _ | longPath _ | malformed _ => true
  | damaged error => error.endsRun
  | _ => false

/-- The error of a band. -/
def FileSource.Error.ofBand (e : FileSource.Error) (band : String) : SourceError :=
  ⟨e.reason, band, some e.message⟩

namespace FileSource

variable [Host]

/-- The path of the file of a band. -/
def pathFor (s : FileSource) (band : String) : Except Template.Fault Path :=
  match s.paths.lookup band with
  | some path => .ok path
  | none => do return s.directory.join (Path.ofText (← Template.fill Host.attributes s.template band))

/-- The grid in an array file. -/
def decode (s : FileSource) (band : String) (bytes : List UInt8) : Except Error Grid := do
  let file ← (ArrayFile.ofBytes Host.arrayRoom bytes).mapError .damaged
  match file.descriptor with
  | .single type =>
    if !type.isSample then throw (.noSamples file.descriptor)
    match file.shape with
    | [height, width] =>
      if height = 0 ∨ width = 0 then throw (.noMatrix file.shape)
      let cellType := (s.cellTypes.lookup band).getD type.cellType
      (Grid.ofRows (.ofRows (file.rows type height width)) cellType s.noData).mapError .malformed
    | shape => throw (.noMatrix shape)
  | descriptor => throw (.noSamples descriptor)

/-- The grid of a band. -/
def load (s : FileSource) (files : FileReader) (band : String) : Except Error Grid := do
  let path ← (s.pathFor band).mapError .template
  match files path with
  | .nothing => throw (.noFile path)
  | .forbidden => throw (.forbidden path)
  | .tooLong => throw (.longPath path)
  | .unopened => throw (.unopened path)
  | .file bytes => s.decode band bytes

/-- The files as a source of bands. -/
def source (s : FileSource) (files : FileReader) : Source := fun band =>
  (s.load files band).mapError (·.ofBand band)

/-- The error that some of the bands meet first, of those that end a run. -/
def fatal? (s : FileSource) (files : FileReader) (bands : List String) : Option Error :=
  bands.findSome? fun band =>
    match s.load files band with
    | .error e => if e.endsRun then some e else none
    | .ok _ => none

/-- Reads and evaluates a text with the bands in the files. -/
def run (s : FileSource) (policy : DivisionPolicy) (files : FileReader) (formula : String) :
    Except Error Outcome :=
  let outcome := Environment.run ⟨policy, s.source files⟩ formula []
  match s.fatal? files outcome.requests with
  | some e => .error e
  | none => .ok outcome

end FileSource

end RasterAlgebra
