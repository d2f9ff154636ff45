import RasterAlgebra.FileReader
/-!
# File trees

All files and directories, from the root on. A path is followed name by name, from the root or from the
directory where one is: whatever a name stands behind must be a directory, and double dots lead back to the
directory around it.
-/

namespace RasterAlgebra

/-- Files and directories with the names that lead to them from the root. A directory around another one, or
around a file, need not be listed. -/
structure FileTree where
  files : List (List String × List UInt8)
  directories : List (List String)
  /-- The directory from which relative paths lead. -/
  here : List String

/-- Why a path leads to no place, or to none where a file could be put. -/
inductive FileTree.Misplacement where
  /-- A directory is missing. -/
  | missing
  /-- A name stands behind a file. -/
  | behindFile
  /-- The path leads to a directory. -/
  | directory
  /-- The path, or a name in it, is too long. -/
  | tooLong
  deriving DecidableEq, Repr

namespace FileTree

/-- A tree from the texts of paths, where one is at the root. -/
def ofTexts (files : List (String × List UInt8)) : FileTree :=
  ⟨files.map fun (text, bytes) => ((Path.ofText text).names, bytes), [], []⟩

/-- Whether a place is a directory: one that is listed, the one where one is, or one around something else. -/
def isDirectory (t : FileTree) (place : List String) : Bool :=
  place.isPrefixOf t.here || t.directories.any (fun names => place.isPrefixOf names) ||
    t.files.any fun (names, _) => place.length < names.length && place.isPrefixOf names

/-- The longest name, in bytes. -/
def maxNameSize : Nat := 255

/-- The longest path, in bytes. -/
def maxPathSize : Nat := 4095

/-- Whether a name is too long for a file or a directory. -/
def isLongName (name : String) : Bool := maxNameSize < name.utf8ByteSize

/-- The place that names lead to from a directory. The root is the directory around itself. -/
def follow (t : FileTree) (place : List String) : List String → Except Misplacement (List String)
  | [] => .ok place
  | name :: rest =>
    if !t.isDirectory place then
      .error (if (t.files.lookup place).isSome then .behindFile else .missing)
    else if name = ".." then t.follow place.dropLast rest
    else if isLongName name then .error .tooLong
    else t.follow (place ++ [name]) rest

/-- The place that a path leads to. -/
def place (t : FileTree) (p : Path) : Except Misplacement (List String) :=
  if maxPathSize < p.text.utf8ByteSize then .error .tooLong
  else t.follow (if p.root = "" then t.here else []) p.names

/-- What is found at a path. -/
def find (t : FileTree) (p : Path) : Finding :=
  match t.place p with
  | .ok place =>
    match t.files.lookup place with
    | some bytes => .file bytes
    | none => .nothing
  | .error .tooLong => .tooLong
  | .error _ => .nothing

/-- The place where a file can be put. -/
def destination (t : FileTree) (p : Path) : Except Misplacement (List String) := do
  let place ← t.place p
  if t.isDirectory place then throw .directory
  return place

end FileTree

end RasterAlgebra
