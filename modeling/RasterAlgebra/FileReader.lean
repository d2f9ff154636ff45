import RasterAlgebra.Path
/-!
# Reading files

A `FileReader` looks up paths. At a path there may be a file, also one that cannot be opened, or nothing; and
there are paths that cannot be looked up at all.
-/

namespace RasterAlgebra

/-- What is found at a path. -/
inductive Finding where
  | file (bytes : List UInt8)
  /-- A file that cannot be opened. -/
  | unopened
  | nothing
  /-- The path may not be looked up. -/
  | forbidden
  /-- The path, or a name in it, is too long. -/
  | tooLong
  deriving DecidableEq, Repr

/-- Whether a file was found, even if it cannot be opened. -/
def Finding.isFile : Finding → Bool
  | file _ | unopened => true
  | _ => false

/-- Whether a path could be looked up, whatever there is. -/
def Finding.isKnown : Finding → Bool
  | forbidden | tooLong => false
  | _ => true

/-- Access to files by their paths. -/
abbrev FileReader : Type := Path → Finding

end RasterAlgebra
