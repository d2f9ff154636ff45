import RasterAlgebra.ArrayFile.Descriptor.Literal
import RasterAlgebra.Literal.LengthMark
/-!
# Headers of array files

The header of an array file tells what the elements are, the lengths of the array, and whether the
elements are stored with the first index running fastest. It is written as a literal dictionary with
three entries; `Header.ofText` reads one, and `headerOf` writes the one of an array with two dimensions.
-/

namespace RasterAlgebra.ArrayFile

/-- The versions of the format. They differ in how the header is written. -/
inductive Version where
  | one
  | two
  | three
  deriving DecidableEq, Repr

namespace Version

/-- The number of a version. -/
def number : Version → Nat
  | one => 1
  | two => 2
  | three => 3

/-- The version with a given number. -/
def ofNumber? : Nat → Option Version
  | 1 => some one
  | 2 => some two
  | 3 => some three
  | _ => none

/-- How many bytes tell the length of the header. -/
def lengthSize : Version → Nat
  | one => 2
  | _ => 4

end Version

/-- A length as a header writes it. A truth value counts as zero or one where lengths are multiplied, but it
is none of the lengths that an array can have. -/
structure WrittenLength where
  value : Int
  isTruth : Bool
  deriving DecidableEq, Repr

/-- What a header tells. -/
structure Header where
  descriptor : Descriptor
  /-- Whether the first index runs fastest. -/
  columnOrder : Bool
  lengths : List WrittenLength

/-- Why a text is no header. -/
inductive Header.Error where
  /-- There are too many characters. -/
  | tooLong
  | literal (error : Literal.Error)
  /-- The text could not be searched for marks of lengths. -/
  | lengthMarks (error : Literal.LengthMarkError)
  /-- The value is no dictionary, or some of the three entries are missing or not what they should be. -/
  | malformed
  /-- The keys are others than they should be, and cannot be put in order. -/
  | unorderedKeys
  | descriptor (error : Descriptor.Error)
  deriving DecidableEq, Repr

/-- Whether an error ends the run in which the header is read. All others only make the file unreadable. -/
def Header.Error.endsRun : Header.Error → Bool
  | literal .changeableKey | literal .tooLarge => true
  | lengthMarks .unfinished | lengthMarks .badStep => true
  | unorderedKeys => true
  | descriptor .badShape | descriptor .tooShort => true
  | _ => false

/-! ## Reading -/

/-- The keys of a header. -/
def headerKeys : List String := ["descr", "fortran_order", "shape"]

/-- The longest header, in characters. -/
def maxHeaderLength : Nat := 10000

/-- The value that the text of a header writes. Up to the second version whole numbers may have marks for
their lengths, which are taken out of a text that cannot be read otherwise. -/
def headerValue (version : Version) (text : List Char) : Except Header.Error Literal :=
  match Literal.read text with
  | .error .misspelt =>
    if version = .three then .error (.literal .misspelt)
    else do
      let unmarked ← (Literal.dropLengthMarks text).mapError .lengthMarks
      (Literal.read unmarked).mapError .literal
  | result => result.mapError .literal

/-- A length from the value that writes it. -/
def WrittenLength.ofLiteral? : Literal → Option WrittenLength
  | .truth b => some ⟨if b then 1 else 0, true⟩
  | .whole n => some ⟨n, false⟩
  | _ => none

/-- A header from its text. The descriptor of the elements is looked at last. -/
def Header.ofText (version : Version) (text : List Char) : Except Header.Error Header := do
  if maxHeaderLength < text.length then throw .tooLong
  let .dictionary entries ← headerValue version text | throw .malformed
  let found := headerKeys.filterMap fun key => Literal.entry? key entries
  match found, decide (entries.length = headerKeys.length) with
  | [descriptor, order, shape], true =>
    let .tuple items := shape | throw .malformed
    let some lengths := items.mapM WrittenLength.ofLiteral? | throw .malformed
    let .truth columnOrder := order | throw .malformed
    let descriptor ← (Descriptor.ofLiteral descriptor).mapError .descriptor
    return { descriptor, columnOrder, lengths }
  | _, _ =>
    throw (if Literal.areSortable (entries.map (·.1)) then .malformed else .unorderedKeys)

/-- The characters of a header: single bytes, in the third version UTF-8. -/
def headerText? (version : Version) (bytes : List UInt8) : Option (List Char) :=
  if version = .three then (String.fromUTF8? bytes.toByteArray).map String.toList
  else some (bytes.map fun b => Char.ofNat b.toNat)

/-! ## Writing -/

/-- The bytes that every array file starts with. -/
def mark : List UInt8 := [0x93, 0x4e, 0x55, 0x4d, 0x50, 0x59]

/-- The ways to store one array. -/
structure Layout where
  version : Version
  /-- Whether the first index runs fastest. -/
  columnOrder : Bool
  deriving DecidableEq, Repr

/-- The header of an array of `height` rows and `width` columns. -/
def headerOf (layout : Layout) (type : ElementType) (height width : Nat) : String :=
  let order := if layout.columnOrder then "True" else "False"
  "\x7b'descr': " ++ "'" ++ type.code ++ "', 'fortran_order': " ++ order ++
    ", 'shape': " ++ shapeText [height, width] ++ ", \x7d"

/-- Blanks and a line end behind a header, so that the elements start at a multiple of 64 bytes. Room is
left for the slowest length to grow to 21 digits. -/
def padding (layout : Layout) (height width : Nat) (header : String) : String :=
  let slowest := if layout.columnOrder then width else height
  let room := 21 - (Nat.repr slowest).length
  let used := mark.length + 2 + layout.version.lengthSize + header.length + room + 1
  String.ofList (List.replicate (room + (64 - used % 64)) ' ' ++ ['\n'])

end RasterAlgebra.ArrayFile
