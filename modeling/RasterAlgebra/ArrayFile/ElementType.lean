import RasterAlgebra.ArrayFile.TimeUnit
import RasterAlgebra.CellType
/-!
# Element types of array files

What the elements of a stored array are: the kind of element, its size in bytes, and the order of the
bytes. `ofText?` reads the descriptors that files carry (`<u2`, `|b1`) and the names of types; `text` shows
a type. Truth values, whole numbers, real numbers and time spans can be samples.
-/

namespace RasterAlgebra.ArrayFile

/-- The kinds of elements, with their sizes in bytes or characters. -/
inductive ElementType.Kind where
  | truth
  | signed (size : Nat)
  | unsigned (size : Nat)
  | real (size : Nat)
  /-- Two real numbers of half the size each. -/
  | complex (size : Nat)
  /-- Text of so many single bytes. -/
  | byteText (length : Nat)
  /-- Text of so many characters. -/
  | text (length : Nat)
  | raw (size : Nat)
  /-- A moment, counted in a unit of time. -/
  | moment (unit : TimeUnit)
  /-- A span of time, counted in a unit. -/
  | span (unit : TimeUnit)
  | object
  deriving DecidableEq, Repr

/-- The type of the elements of an array. -/
structure ElementType where
  kind : ElementType.Kind
  /-- Whether the most significant byte comes first. Where the order says nothing, it does not. -/
  bigEndian : Bool
  deriving DecidableEq, Repr

namespace ElementType

/-- How many bytes an element takes. -/
def Kind.size : Kind → Nat
  | truth => 1
  | signed size | unsigned size | real size | complex size | byteText size | raw size => size
  | text length => 4 * length
  | moment _ | span _ | object => 8

/-- Whether the order of the bytes says anything. -/
def Kind.isOrdered : Kind → Bool
  | truth | byteText _ | raw _ | object => false
  | kind => kind.size != 1

/-- A type whose order of bytes is dropped where it says nothing. -/
def ofKind (kind : Kind) (bigEndian : Bool) : ElementType := ⟨kind, bigEndian && kind.isOrdered⟩

/-! ## Reading -/

/-- The kind of a single letter. -/
def Kind.ofLetter? : Char → Option Kind
  | '?' => some truth
  | 'b' => some (signed 1)
  | 'B' => some (unsigned 1)
  | 'h' => some (signed 2)
  | 'H' => some (unsigned 2)
  | 'i' => some (signed 4)
  | 'I' => some (unsigned 4)
  | 'l' | 'q' | 'p' | 'n' => some (signed 8)
  | 'L' | 'Q' | 'P' | 'N' => some (unsigned 8)
  | 'e' => some (real 2)
  | 'f' => some (real 4)
  | 'd' => some (real 8)
  | 'g' => some (real 16)
  | 'F' => some (complex 8)
  | 'D' => some (complex 16)
  | 'G' => some (complex 32)
  | 'S' | 'a' => some (byteText 0)
  | 'c' => some (byteText 1)
  | 'U' => some (text 0)
  | 'V' => some (raw 0)
  | 'M' => some (moment .none)
  | 'm' => some (span .none)
  | 'O' | 'T' => some object
  | _ => none

/-- The kinds in the order of their numbers. -/
def Kind.numbered : List Kind :=
  [truth, signed 1, unsigned 1, signed 2, unsigned 2, signed 4, unsigned 4, signed 8, unsigned 8, signed 8,
    unsigned 8, real 4, real 8, real 16, complex 8, complex 16, complex 32, object, byteText 0, text 0,
    raw 0, moment .none, span .none, real 2]

/-- The kind of a letter with a size behind it. -/
def Kind.ofSized? (letter : Char) (size : Nat) : Option Kind :=
  match letter with
  | 'b' => if size = 1 then some truth else none
  | 'i' => if [1, 2, 4, 8].contains size then some (signed size) else none
  | 'u' => if [1, 2, 4, 8].contains size then some (unsigned size) else none
  | 'f' => if [2, 4, 8, 16].contains size then some (real size) else none
  | 'c' => if [8, 16, 32].contains size then some (complex size) else none
  | 'S' | 'a' => some (byteText size)
  | 'U' => if 4 * size ≤ maxCount then some (text size) else none
  | 'V' => some (raw size)
  | 'M' => if size = 8 then some (moment .none) else none
  | 'm' => if size = 8 then some (span .none) else none
  | 'O' => if size = 4 ∨ size = 8 then some object else none
  | _ => none

/-- The kind of a moment or a span of time, with the unit behind it. -/
def Kind.ofTimed? (s : List Char) : Option (Option Kind) :=
  (timed? "M8" moment <|> timed? "m8" span <|> timed? "datetime64" moment <|>
    timed? "timedelta64" span)
where
  /-- The same for one way to start. -/
  timed? (start : String) (kind : TimeUnit → Kind) : Option (Option Kind) :=
    if start.toList.isPrefixOf s then some ((TimeUnit.ofText? (s.drop start.length)).map kind) else none

/-- The kind that a descriptor without its order stands for: a letter, a number in place of one, or a letter
with a size, which is written like any whole number. -/
def Kind.ofCode? (s : List Char) : Option Kind :=
  match ofTimed? s, s with
  | some kind, _ => kind
  | none, [letter] => ofLetter? letter <|> numbered[letter.toNat]?
  | none, letter :: size =>
    match takeInteger? size with
    | some (size, []) => if 0 ≤ size ∧ size ≤ maxCount then ofSized? letter size.toNat else none
    | _ => none
  | none, [] => none

/-- The names of types. -/
def Kind.ofName? : String → Option Kind
  | "bool" | "bool_" => some truth
  | "int8" | "byte" => some (signed 1)
  | "uint8" | "ubyte" => some (unsigned 1)
  | "int16" | "short" => some (signed 2)
  | "uint16" | "ushort" => some (unsigned 2)
  | "int32" | "intc" => some (signed 4)
  | "uint32" | "uintc" => some (unsigned 4)
  | "int64" | "int" | "int_" | "intp" | "long" | "longlong" => some (signed 8)
  | "uint64" | "uint" | "uintp" | "ulong" | "ulonglong" => some (unsigned 8)
  | "float16" | "half" => some (real 2)
  | "float32" | "single" => some (real 4)
  | "float64" | "float" | "double" => some (real 8)
  | "float128" | "longdouble" => some (real 16)
  | "complex64" | "csingle" => some (complex 8)
  | "complex128" | "complex" | "cdouble" => some (complex 16)
  | "complex256" | "clongdouble" => some (complex 32)
  | "str" | "str_" | "unicode" => some (text 0)
  | "bytes" | "bytes_" => some (byteText 0)
  | "void" => some (raw 0)
  | "object" | "object_" => some object
  | _ => none

/-- A type from its descriptor or its name. The least significant byte comes first unless the descriptor
says otherwise. -/
def ofText? (s : List Char) : Option ElementType :=
  match Kind.ofName? (String.ofList s), s with
  | some kind, _ => some (ofKind kind false)
  | none, '>' :: code => (Kind.ofCode? code).map (ofKind · true)
  | none, '<' :: code | none, '=' :: code | none, '|' :: code => (Kind.ofCode? code).map (ofKind · false)
  | none, code => (Kind.ofCode? code).map (ofKind · false)

/-! ## Showing -/

/-- The letter of a kind, and what is written behind it. -/
def Kind.code : Kind → String
  | truth => "b1"
  | signed size => "i" ++ Nat.repr size
  | unsigned size => "u" ++ Nat.repr size
  | real size => "f" ++ Nat.repr size
  | complex size => "c" ++ Nat.repr size
  | byteText length => "S" ++ Nat.repr length
  | text length => "U" ++ Nat.repr length
  | raw size => "V" ++ Nat.repr size
  | moment unit => "M8" ++ unit.text
  | span unit => "m8" ++ unit.text
  | object => "O"

/-- The name of a kind. -/
def Kind.name : Kind → String
  | truth => "bool"
  | signed size => "int" ++ Nat.repr (8 * size)
  | unsigned size => "uint" ++ Nat.repr (8 * size)
  | real size => "float" ++ Nat.repr (8 * size)
  | complex size => "complex" ++ Nat.repr (8 * size)
  | moment unit => "datetime64" ++ unit.text
  | span unit => "timedelta64" ++ unit.text
  | object => "object"
  | kind => kind.code

/-- The mark for the order of the bytes. -/
def orderMark (t : ElementType) : String :=
  if !t.kind.isOrdered then "|" else if t.bigEndian then ">" else "<"

/-- The descriptor of a type. -/
def code (t : ElementType) : String := t.orderMark ++ t.kind.code

/-- A type by its name, or by its descriptor where it has none. -/
def text (t : ElementType) : String :=
  match t.kind with
  | .byteText _ | .text _ | .raw _ => t.code
  | kind => if t.bigEndian then ">" ++ kind.code else kind.name

/-- A type as it is shown among the fields of a record. -/
def fieldText (t : ElementType) : String :=
  match t.kind with
  | .truth => "?"
  | .byteText 0 => "S"
  | .text 0 => t.orderMark ++ "U"
  | .raw 0 => "V"
  | kind => (if kind.isOrdered then t.orderMark else "") ++ kind.code

/-! ## Samples -/

/-- Whether the elements can be samples. -/
def isSample (t : ElementType) : Bool :=
  match t.kind with
  | .truth | .signed _ | .unsigned _ | .real _ | .span _ => true
  | _ => false

/-- The cell type of a grid of such elements. Only the types that cells have by name count, with the least
significant byte first; all else becomes real numbers. -/
def cellType (t : ElementType) : CellType :=
  if t.bigEndian then .float32
  else match t.kind with
    | .truth => .boolean
    | .unsigned 1 => .uint8
    | .signed 2 => .int16
    | .unsigned 2 => .uint16
    | _ => .float32

end ElementType

end RasterAlgebra.ArrayFile
