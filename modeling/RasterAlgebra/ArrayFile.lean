import RasterAlgebra.Archive
import RasterAlgebra.ArrayFile.Header
import RasterAlgebra.Grid
/-!
# Array files

A file that holds one array: a mark, a version, a header and the elements. `ArrayFile.ofBytes` takes a
file apart, `samples` gives the samples of an array with two dimensions, and `encode` writes an array in
any layout.
-/

namespace RasterAlgebra

/-- An array as it is stored. -/
structure ArrayFile where
  descriptor : ArrayFile.Descriptor
  /-- Whether the first index runs fastest. -/
  columnOrder : Bool
  shape : List Nat
  /-- The bytes of the elements, and whatever stands behind them. -/
  content : List UInt8

/-- Why a file is no array. -/
inductive ArrayFile.Error where
  | unmarked
  | unknownVersion
  /-- The file ends before the header does, or the header is no text. -/
  | noHeader
  | header (error : Header.Error)
  /-- A length does not fit into a word. -/
  | hugeLength
  /-- The elements refer to things outside of the file. -/
  | objects
  /-- There is no room for all the elements that the header tells of. -/
  | noRoom
  /-- The bytes do not make up the elements that the header tells of. -/
  | incomplete
  /-- A truth value stands in place of a length. -/
  | truthLength
  /-- The lengths are not those of an array with so many elements. -/
  | badLengths
  /-- The file is an archive. -/
  | archive
  /-- The file starts like an archive but is none. -/
  | brokenArchive (error : Archive.Error)
  deriving DecidableEq, Repr

/-- The text of an error. -/
def ArrayFile.Error.message : ArrayFile.Error → String
  | unmarked => "the file does not start like an array file"
  | unknownVersion => "the version of the array file is unknown"
  | noHeader => "the array file has no header"
  | header _ => "the header of the array file cannot be read"
  | hugeLength => "a length of the array is too large"
  | objects => "the array file holds objects"
  | noRoom => "the array is too large"
  | incomplete => "the array file is incomplete"
  | truthLength => "a length of the array is no number"
  | badLengths => "the lengths of the array do not fit its elements"
  | archive => "'NpzFile' object has no attribute 'dtype'"
  | brokenArchive _ => "the archive cannot be read"

/-- Whether an error ends the run in which the file is read. All others only make the file unreadable. -/
def ArrayFile.Error.endsRun : ArrayFile.Error → Bool
  | header e => e.endsRun
  | hugeLength | noRoom | truthLength | archive => true
  | brokenArchive e => e != .badName
  | _ => false

namespace ArrayFile

/-! ## Reading -/

/-- How many values a word has. -/
def wordValues : Nat := Nat.pow 2 64

/-- The largest number in a signed word. -/
def maxWord : Nat := wordValues / 2 - 1

/-- The product of the lengths in a header, kept in a signed word. -/
def Header.elementCount (h : Header) : Except ArrayFile.Error Int :=
  if h.lengths.all fun l => decide (-(maxWord + 1 : Int) ≤ l.value ∧ l.value < wordValues) then
    .ok (Int.bmod (h.lengths.foldl (fun product l => product * l.value) 1) wordValues)
  else .error .hugeLength

/-- Checks that the elements are there: `room` bytes are enough for them, their bytes are in the file, and each
of them makes up one item of the array. -/
def checkContent (room : Nat) (d : Descriptor) (count : Int) (content : List UInt8) :
    Except Error Unit := do
  if count < 0 then throw .incomplete
  let count := count.toNat
  if maxWord < count * d.size then throw .incomplete
  if room < count * d.size then throw .noRoom
  if content.length < count * d.size then throw .incomplete
  if count * d.itemCount ≠ count then throw .incomplete

/-- Checks that a length as it is written is a number in a signed word. -/
def WrittenLength.check (l : WrittenLength) : Except ArrayFile.Error Unit :=
  if l.isTruth then .error .truthLength
  else if maxWord < l.value then .error .badLengths
  else .ok ()

/-- The lengths of an array of `count` elements. There are 64 of them at most, and they are looked at from
the slowest index to the fastest. If some are zero, the others must still be those of an array that could be
stored. -/
def Header.shape (h : Header) (count : Nat) : Except ArrayFile.Error (List Nat) := do
  if 64 < h.lengths.length then throw .badLengths
  (if h.columnOrder then h.lengths.reverse else h.lengths).forM WrittenLength.check
  if h.lengths.any (·.value < 0) then throw .badLengths
  let shape := h.lengths.map (·.value.toNat)
  if Descriptor.count shape ≠ count then throw .badLengths
  if maxWord < Descriptor.count (shape.filter (· ≠ 0)) * max h.descriptor.core.size 1 then
    throw .badLengths
  return shape

/-- Takes the part of a file behind the mark and the version apart, with `room` bytes for the elements. -/
def ofContent (room : Nat) (version : Version) (bytes : List UInt8) : Except Error ArrayFile := do
  if bytes.length < version.lengthSize then throw .noHeader
  let length := natOfBytes (bytes.take version.lengthSize)
  let rest := bytes.drop version.lengthSize
  if rest.length < length then throw .noHeader
  let some text := headerText? version (rest.take length) | throw .noHeader
  let header ← (Header.ofText version text).mapError .header
  let content := rest.drop length
  let count ← header.elementCount
  if header.descriptor.hasObjects then throw .objects
  checkContent room header.descriptor count content
  let shape ← header.shape count.toNat
  return { descriptor := header.descriptor.core, columnOrder := header.columnOrder, shape, content }

/-- Takes a file apart, with `room` bytes for the elements. -/
def ofBytes (room : Nat) (bytes : List UInt8) : Except Error ArrayFile := do
  if Archive.isMarked bytes then
    match Archive.names bytes with
    | .ok _ => throw .archive
    | .error e => throw (.brokenArchive e)
  if bytes.take mark.length ≠ mark then throw .unmarked
  let major :: minor :: rest := bytes.drop mark.length | throw .noHeader
  let some version := Version.ofNumber? major.toNat | throw .unknownVersion
  if minor ≠ 0 then throw .unknownVersion
  ofContent room version rest

/-! ## Samples -/

/-- The first `count` pieces of `size` elements each. -/
def pieces {α : Type} (size : Nat) : (count : Nat) → List α → List (List α)
  | 0, _ => []
  | count + 1, s => s.take size :: pieces size count (s.drop size)

/-- The rows of a matrix whose elements are stored column by column, each column of `height` elements. -/
def transpose {α : Type} (height : Nat) (columns : List (List α)) : List (List α) :=
  (List.range height).map fun y => columns.filterMap (·[y]?)

/-- The samples of an array of `height` rows and `width` columns, row by row. -/
def samples (file : ArrayFile) (type : ElementType) (height width : Nat) : List Sample :=
  let stored := (pieces type.kind.size (height * width) file.content).map (sampleOfBytes type)
  if file.columnOrder then (transpose height (pieces height width stored)).flatten else stored

/-- The rows of an array of `height` rows and `width` columns. -/
def rows (file : ArrayFile) (type : ElementType) (height width : Nat) : List (List Sample) :=
  pieces width height (file.samples type height width)

/-! ## Writing -/

/-- Writes an array of `height` rows and `width` columns as a file, given the bits of its elements row by
row. -/
def encode (layout : Layout) (type : ElementType) (height width : Nat) (elements : List Nat) :
    List UInt8 :=
  let header := headerOf layout type height width
  let text := (header ++ padding layout height width header).toUTF8.toList
  let stored := if layout.columnOrder then (transpose width (pieces width height elements)).flatten
    else elements
  mark ++ [layout.version.number.toUInt8, 0] ++ bytesOfNat layout.version.lengthSize text.length ++
    text ++ stored.flatMap (bytesOfElement type)

end ArrayFile

/-- The file of a grid: its rows as scalars, and each of them as a sample again. -/
def Grid.arrayFile (g : Grid) : List UInt8 :=
  let scalars := (g.rows.map (·.map Sample.toScalar)).flatten
  ArrayFile.encode ⟨.one, false⟩ ⟨.real 4, false⟩ g.height g.width
    (scalars.map fun x => (Sample.ofScalar x).toBits.toNat)

end RasterAlgebra
