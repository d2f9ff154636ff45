import RasterAlgebra.ArrayFile.Descriptor
import RasterAlgebra.Literal.Reader
import RasterAlgebra.Text.Blank
/-!
# Descriptors as codes

A descriptor is written as a short text: the code or the name of a type, with the shape of an array in
front of it, or several of these with commas between them, which make up a record. `Descriptor.ofCode`
reads such a text, and `Descriptor.sized` gives a descriptor a shape or a size.
-/

namespace RasterAlgebra.ArrayFile.Descriptor

/-- Why something is no descriptor. -/
inductive Error where
  /-- No type has this code. -/
  | unknown (code : List Char)
  /-- A shape in front of a code is misspelt. -/
  | badShape
  /-- Something that should have two items has fewer. -/
  | tooShort
  /-- Any other mistake. -/
  | malformed
  deriving DecidableEq, Repr

/-! ## Shapes and sizes -/

/-- Gives a descriptor a shape. No lengths at all change nothing. -/
def shaped (d : Descriptor) (shape : List Int) : Except Error Descriptor :=
  let lengths := shape.map Int.toNat
  if 64 < shape.length ∨ shape.any (fun n => n < 0 || maxCount < n) then .error .malformed
  else if maxCount < count lengths ∨ maxCount < d.size * count lengths then .error .malformed
  else .ok (if shape.isEmpty then d else .array d lengths)

/-- Whether a type lacks a size. -/
def lacksSize : Descriptor → Bool
  | single ⟨.byteText 0, _⟩ | single ⟨.text 0, _⟩ | single ⟨.raw 0, _⟩ => true
  | _ => false

/-- Gives a type without a size one, counted in characters where it is text. -/
def withSize (size : Nat) : Descriptor → Descriptor
  | single ⟨.byteText _, _⟩ => single (.ofKind (.byteText size) false)
  | single ⟨.text _, bigEndian⟩ => single (.ofKind (.text size) bigEndian)
  | single ⟨.raw _, _⟩ => single (.ofKind (.raw size) false)
  | d => d

/-- A type with the size of another one, which must be its own if it has one. -/
def matching (d : Descriptor) (other : Descriptor) : Except Error Descriptor :=
  if d.lacksSize then
    match d with
    | single ⟨.text _, _⟩ =>
      if other.size % 4 = 0 then .ok (d.withSize (other.size / 4)) else .error .malformed
    | d => .ok (d.withSize other.size)
  else if d.size = other.size then .ok d
  else .error .malformed

/-- Gives a descriptor what a value tells: lengths, or a size if it lacks one. A single length of one
changes nothing. -/
def sized (d : Descriptor) : Literal → Except Error Descriptor
  | .whole n =>
    if d.lacksSize then
      if 0 ≤ n ∧ n ≤ maxCount then .ok (d.withSize n.toNat) else .error .malformed
    else if n = 1 then .ok d
    else d.shaped [n]
  | .tuple items =>
    if d.lacksSize then .error .malformed
    else
      let lengths := items.mapM fun
        | .whole n => some n
        | _ => none
      match lengths with
      | some shape => d.shaped shape
      | none => .error .malformed
  | _ => .error .malformed

/-! ## Records without names -/

/-- The name of a field that has none, by its place in the record. -/
def numberedName (i : Nat) : FieldName := ⟨("f" ++ Nat.repr i).toList.map Char.toNat, none⟩

/-- Descriptors with the bytes in front of them, one after the other. -/
def placed (offset : Nat) : List (FieldName × Descriptor) → List (FieldName × Nat × Descriptor)
  | [] => []
  | (f, d) :: rest => (f, offset, d) :: placed (offset + d.size) rest

/-- The bytes that descriptors take in a row. -/
def totalSize (parts : List (FieldName × Descriptor)) : Nat :=
  parts.foldl (fun size part => size + part.2.size) 0

/-- A record of fields without gaps. -/
def packed (parts : List (FieldName × Descriptor)) : Descriptor :=
  .record (placed 0 parts) (totalSize parts)

/-! ## Codes -/

/-- Whether a character tells the order of bytes. -/
def isOrder (c : Char) : Bool := c == '<' || c == '>' || c == '|' || c == '='

/-- Whether a code has more to it than a type: it starts with a number or an empty shape, behind the order
of bytes or not, or it has a comma outside of brackets. -/
def isCompound (code : List Char) : Bool :=
  let rest := if code.head?.any isOrder then code.drop 1 else code
  code.head?.any Char.isDigit || rest.head?.any Char.isDigit || code.take 2 == ['(', ')'] ||
    (code.length > 3 && rest.take 2 == ['(', ')']) || hasComma 0 code
where
  /-- Whether there is a comma outside of brackets, given how many are open. -/
  hasComma (depth : Int) : List Char → Bool
    | [] => false
    | c :: rest =>
      (c == ',' && depth == 0) ||
        hasComma (if c = '[' then depth + 1 else if c = ']' then depth - 1 else depth) rest

/-- A part of a compound code. -/
structure Part where
  /-- The code of the part, with the order of its bytes. -/
  code : List Char
  /-- What stands in front of it. -/
  shape : Option Literal

/-- The order of bytes at the head of a text, and the rest. -/
def takeOrder (s : List Char) : List Char × List Char :=
  if s.head?.any isOrder then (s.take 1, s.drop 1) else ([], s)

/-- The shape at the head of a text, and the rest: numbers, commas and blanks, in parentheses or not. -/
def takeShape (s : List Char) : List Char × List Char :=
  let blanks := s.takeWhile (· == ' ')
  let s := s.drop blanks.length
  let opening := (s.take 1).filter (· == '(')
  let s := s.drop opening.length
  let lengths := s.takeWhile fun c => c == ' ' || c == ',' || c.isDigit
  let s := s.drop lengths.length
  let closing := (s.take 1).filter (· == ')')
  let s := s.drop closing.length
  (blanks ++ opening ++ lengths ++ closing ++ s.takeWhile (· == ' '), s.dropWhile (· == ' '))

/-- The code of a type at the head of a text, with what stands in brackets behind it, and the rest. -/
def takeType (s : List Char) : List Char × List Char :=
  let isCodeChar (c : Char) := c.isAlphanum || c == '.'
  let code := s.takeWhile fun c => isCodeChar c || c == '?'
  let rest := s.drop code.length
  match rest with
  | '[' :: inner =>
    let content := inner.takeWhile fun c => isCodeChar c || c == ','
    match inner.drop content.length with
    | ']' :: behind => (code ++ '[' :: content ++ [']'], behind)
    | _ => (code, rest)
  | _ => (code, rest)

/-- The order of bytes of a part, for which it may be told twice. The usual order is left out. -/
def commonOrder (before behind : List Char) : Except Error (List Char) :=
  let usual (order : List Char) : List Char := if order = ['='] then ['<'] else order
  let order := if behind.isEmpty then before else behind
  if !before.isEmpty && !behind.isEmpty && usual before != usual behind then .error .malformed
  else .ok (if order = ['>'] then order else [])

/-- The value of the shape in front of a part. -/
def shapeValue (shape : List Char) : Except Error (Option Literal) :=
  if shape.isEmpty then .ok none
  else match Literal.read shape with
    | .ok v => .ok (some v)
    | .error _ => .error .badShape

/-- What stands behind a part: nothing, or a comma and more. -/
def takeSeparator (s : List Char) : Except Error (Option (List Char)) :=
  match s.dropWhile Text.isSpace with
  | [] => .ok none
  | ',' :: rest => .ok (some (rest.dropWhile Text.isSpace))
  | _ => .error .malformed

/-- The parts of a compound code, and whether there is a comma behind one. Every part uses up a
character. -/
def partsWithin : (fuel : Nat) → List Char → Except Error (List Part × Bool)
  | 0, _ => .error .malformed
  | fuel + 1, s => do
    let (before, rest) := takeOrder s
    let (shape, rest) := takeShape rest
    let (behind, rest) := takeOrder rest
    let (code, rest) := takeType rest
    let separated ← takeSeparator rest
    let order ← commonOrder before behind
    let part : Part := ⟨order ++ code, ← shapeValue shape⟩
    match separated with
    | none => return ([part], false)
    | some [] => return ([part], true)
    | some rest =>
      let (parts, _) ← partsWithin fuel rest
      return (part :: parts, true)

/-- Parts without the last one if there is nothing to it. -/
def dropEmptyPart (parts : List Part) : List Part :=
  match parts.getLast? with
  | some ⟨[], none⟩ => parts.dropLast
  | _ => parts

/-- The descriptor with a code. Codes within codes are shorter, so `fuel` can be the length of the code. -/
def ofCodeWithin (fuel : Nat) (code : List Char) : Except Error Descriptor :=
  if !isCompound code then
    match ElementType.ofText? code with
    | some type => .ok (.single type)
    | none => .error (.unknown code)
  else match fuel with
    | 0 => .error .malformed
    | fuel + 1 => do
      let (parts, comma) ← partsWithin (code.length + 1) code
      let read (part : Part) : Except Error Descriptor := do
        let d ← ofCodeWithin fuel part.code
        match part.shape with
        | none => return d
        | some v => d.sized v
      match comma, dropEmptyPart parts with
      | false, [part] => read part
      | _, [] => throw .malformed
      | _, parts =>
        let descriptors ← parts.mapM read
        return packed (descriptors.zipIdx.map fun (d, i) => (numberedName i, d))

/-- The descriptor with a code. -/
def ofCode (code : List Char) : Except Error Descriptor := ofCodeWithin (code.length + 1) code

end RasterAlgebra.ArrayFile.Descriptor
