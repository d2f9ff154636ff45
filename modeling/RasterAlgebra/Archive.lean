import RasterAlgebra.ArrayFile.Element
/-!
# Archives

An archive holds files and ends with a table of their names, behind which a record tells how long the
table is. `Archive.names` reads the names. What the files hold is not looked at.
-/

namespace RasterAlgebra.Archive

open ArrayFile (natOfBytes)

/-- Why a file is no archive. -/
inductive Error where
  /-- No record ends the file. -/
  | noEnd
  /-- The table would start in front of the file. -/
  | outside
  | brokenTable
  /-- The name of a file should have been UTF-8. -/
  | badName
  /-- A file needs a later version of the format. -/
  | newerVersion
  deriving DecidableEq, Repr

/-! ## Marks -/

/-- The bytes in front of every file in an archive. -/
def fileMark : List UInt8 := [0x50, 0x4b, 0x03, 0x04]

/-- The bytes in front of every entry of the table. -/
def entryMark : List UInt8 := [0x50, 0x4b, 0x01, 0x02]

/-- The bytes in front of the record at the end. -/
def endMark : List UInt8 := [0x50, 0x4b, 0x05, 0x06]

/-- Whether a file starts like an archive, which may be an empty one. -/
def isMarked (file : List UInt8) : Bool := fileMark.isPrefixOf file || endMark.isPrefixOf file

/-- The number that `size` bytes write, the first of them at an offset. -/
def number (offset size : Nat) (bytes : List UInt8) : Nat :=
  natOfBytes ((bytes.drop offset).take size)

/-! ## The end -/

/-- How many bytes the record at the end takes, without the remark that may follow it. -/
def endSize : Nat := 22

/-- The last place where the mark of the end stands in bytes that start at `place`, or else `found`. -/
def lastEnd (found : Option Nat) (place : Nat) : List UInt8 → Option Nat
  | [] => found
  | b :: rest => lastEnd (if endMark.isPrefixOf (b :: rest) then some place else found) (place + 1) rest

/-- The place of the record at the end: it stands last, without a remark, or as late as it can. Remarks are
shorter than 65536 bytes. -/
def endPlace? (file : List UInt8) : Option Nat :=
  let last := file.length - endSize
  let record := file.drop last
  if file.length < endSize then none
  else if endMark.isPrefixOf record ∧ number 20 2 record = 0 then some last
  else
    let first := last - 65536
    match lastEnd none first (file.drop first) with
    | some place => if place ≤ last then some place else none
    | none => none

/-- The table of an archive. -/
def table (file : List UInt8) : Except Error (List UInt8) :=
  match endPlace? file with
  | none => .error .noEnd
  | some place =>
    let size := number 12 4 (file.drop place)
    if place < size then .error .outside else .ok ((file.drop (place - size)).take size)

/-! ## The table -/

/-- How many bytes an entry takes in front of its name. -/
def entrySize : Nat := 46

/-- Whether additions to an entry fill the space for them: every one tells its size, and fewer than four
bytes say nothing. -/
def additionsFit (additions : List UInt8) : Bool :=
  if additions.length < 4 then true
  else
    let size := number 2 2 additions
    decide (size + 4 ≤ additions.length) && additionsFit (additions.drop (size + 4))
termination_by additions.length
decreasing_by simp only [List.length_drop]; omega

/-- The name in an entry. -/
def entryName (entry : List UInt8) : Except Error (List UInt8) := do
  let name := (entry.drop entrySize).take (number 28 2 entry)
  let additions := (entry.drop (entrySize + number 28 2 entry)).take (number 30 2 entry)
  if (number 8 2 entry).testBit 11 ∧ (String.fromUTF8? name.toByteArray).isNone then throw .badName
  if 63 < number 6 1 entry then throw .newerVersion
  if !additionsFit additions then throw .brokenTable
  return name

/-- The names in a table. -/
def tableNames (table : List UInt8) : Except Error (List (List UInt8)) :=
  if table.isEmpty then .ok []
  else if _ : table.length < entrySize then .error .brokenTable
  else if !entryMark.isPrefixOf table then .error .brokenTable
  else do
    let name ← entryName table
    let size := entrySize + number 28 2 table + number 30 2 table + number 32 2 table
    return name :: (← tableNames (table.drop size))
termination_by table.length
decreasing_by simp only [List.length_drop, entrySize] at *; omega

/-- The names of the files in an archive. -/
def names (file : List UInt8) : Except Error (List (List UInt8)) := do tableNames (← table file)

end RasterAlgebra.Archive
