import RasterAlgebra.ArrayFile.ElementType
import RasterAlgebra.Block
import RasterAlgebra.Literal
/-!
# Descriptors of elements

What the elements of an array are: single values, small arrays, or records of named fields. `size` is the
number of bytes that an element takes, and `text` shows what elements are.
-/

namespace RasterAlgebra.ArrayFile

/-- How a field of a record is called. -/
structure FieldName where
  name : List Nat
  /-- A second name, which can be any key. -/
  title : Option Literal

/-- What the elements of an array are. -/
inductive Descriptor where
  | single (type : ElementType)
  | array (base : Descriptor) (shape : List Nat)
  /-- A record takes `size` bytes, and every field of it starts some bytes behind its start. -/
  | record (fields : List (FieldName × Nat × Descriptor)) (size : Nat)

namespace Descriptor

/-- The product of the lengths of a shape. -/
def count (shape : List Nat) : Nat := shape.foldl (· * ·) 1

/-- How many bytes an element takes. -/
def size : Descriptor → Nat
  | single type => type.kind.size
  | array base shape => base.size * count shape
  | record _ size => size

mutual
/-- Whether an element refers to something outside of the file. -/
def hasObjects : Descriptor → Bool
  | single type => type.kind == .object
  | array base _ => base.hasObjects
  | record fields _ => haveObjects fields
/-- Whether some of the fields refer to something outside of the file. -/
def haveObjects : List (FieldName × Nat × Descriptor) → Bool
  | [] => false
  | (_, _, descriptor) :: rest => descriptor.hasObjects || haveObjects rest
end

/-- What an array of such elements holds: the items of arrays are its own. -/
def core : Descriptor → Descriptor
  | array base _ => base.core
  | d => d

/-- How many items of the array an element makes up. -/
def itemCount : Descriptor → Nat
  | array base shape => base.itemCount * count shape
  | _ => 1

/-! ## Showing -/

/-- Whether every field starts where the one before ends, and the record ends with the last one. -/
def arePacked (offset size : Nat) : List (FieldName × Nat × Descriptor) → Bool
  | [] => offset == size
  | (_, start, descriptor) :: rest => start == offset && arePacked (offset + descriptor.size) size rest

/-- The name of a field, behind its title if it has one. -/
def FieldName.text (f : FieldName) : String :=
  match f.title with
  | some title => "(" ++ title.shown ++ ", " ++ Text.quotedCodes f.name ++ ")"
  | none => Text.quotedCodes f.name

/-- A list in brackets. -/
def bracketed (items : List String) : String := "[" ++ ", ".intercalate items ++ "]"

/-- The titles of fields, unless there are none. -/
def titlesText (fields : List (FieldName × Nat × Descriptor)) : String :=
  if fields.all fun (f, _) => f.title.isNone then ""
  else
    ", 'titles': " ++ bracketed (fields.map fun (f, _) => (f.title.getD .nothing).shown)

/-- A record in which there are gaps, given what its fields are. -/
def looseText (fields : List (FieldName × Nat × Descriptor)) (formats : List String) (size : Nat) :
    String :=
  "\x7b'names': " ++ bracketed (fields.map fun (f, _) => Text.quotedCodes f.name) ++
    ", 'formats': " ++ bracketed formats ++
    ", 'offsets': " ++ bracketed (fields.map fun (_, start, _) => Nat.repr start) ++
    titlesText fields ++ ", 'itemsize': " ++ Nat.repr size ++ "\x7d"

mutual
/-- What the elements of a record or an array are. -/
def partText : Descriptor → String
  | single type => "'" ++ type.fieldText ++ "'"
  | array base shape => "(" ++ base.partText ++ ", " ++ shapeText shape ++ ")"
  | record fields size =>
    if arePacked 0 size fields then bracketed (fieldTexts fields)
    else looseText fields (formatTexts fields) size
/-- The fields of a record without gaps. -/
def fieldTexts : List (FieldName × Nat × Descriptor) → List String
  | [] => []
  | (f, _, .array base shape) :: rest =>
    ("(" ++ FieldName.text f ++ ", " ++ base.partText ++ ", " ++ shapeText shape ++ ")") :: fieldTexts rest
  | (f, _, descriptor) :: rest =>
    ("(" ++ FieldName.text f ++ ", " ++ descriptor.partText ++ ")") :: fieldTexts rest
/-- What the fields of a record are. -/
def formatTexts : List (FieldName × Nat × Descriptor) → List String
  | [] => []
  | (_, _, descriptor) :: rest => descriptor.partText :: formatTexts rest
end

/-- What elements are, for people to read. -/
def text : Descriptor → String
  | single type => type.text
  | d => d.partText

end Descriptor

end RasterAlgebra.ArrayFile
